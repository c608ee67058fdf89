import PeHackathon.Dashboard.Webhook
import PeHackathon.Lib.Except
import PeHackathon.Python.JsonFields

/-!
# Batches of alerts

`send_alertmanager_alerts` posts every alert once, in order and in batches of at most ten, and goes
on after a batch that failed, exactly if no POST is refused with a body that is not UTF-8
(`alerts_batched_iff`): that body is decoded in the `except` clause, and what is raised there leaves
the function.
-/

namespace PeHackathon.Dashboard

open Lib

/-! ## Alerts as Alertmanager sends them -/

/-- A field that holds a string, or is missing. -/
def IsText (fields : JsonObject) (key : String) : Prop :=
  ∀ x, fields.get? key = some x → ∃ s, x = .str s

/-- A field that holds an object of strings, or is missing. -/
def IsTextObject (fields : JsonObject) (key : String) : Prop :=
  ∀ x, fields.get? key = some x → ∃ texts : JsonObject, x = .obj texts ∧ ∀ kv ∈ texts, ∃ s,
    kv.2 = .str s

/-- An object whose status, labels and annotations hold strings. -/
def WellFormedAlert (alert : Json) : Prop :=
  ∃ fields : JsonObject, alert = .obj fields ∧ IsText fields "status" ∧
    IsTextObject fields "labels" ∧
    IsTextObject fields "annotations"

section Embed

variable {fields : JsonObject} {key : String}

theorem pyGet_obj (default : Json) :
    pyGet (.obj fields) key default = .ok ((fields.get? key).getD default) := rfl

theorem IsTextObject.read (h : IsTextObject fields key) :
    ∃ texts : JsonObject, pyGet (.obj fields) key (.obj []) = .ok (.obj texts) ∧ ∀ kv ∈ texts, ∃ s,
      kv.2 = .str s := by
  rw [pyGet_obj]
  cases hget : fields.get? key with
  | none => exact ⟨[], rfl, fun _ h => absurd h List.not_mem_nil⟩
  | some x =>
    obtain ⟨texts, rfl, htexts⟩ := h x hget
    exact ⟨texts, rfl, htexts⟩

/-- A string can be cut. -/
theorem annotationField_text (h : ∀ kv ∈ fields, ∃ s, kv.2 = .str s) (key name : String)
    (length : Nat) :
    ∃ field, annotationField (.obj fields) key name length = .ok field := by
  unfold annotationField
  rw [pyGet_obj]
  cases hget : fields.get? key with
  | none => exact ⟨[], rfl⟩
  | some x =>
    obtain ⟨s, rfl⟩ : ∃ s, x = .str s := h (key, x) (mem_of_get hget)
    by_cases htruthy : pyTruthy (.str s) = true
    · exact ⟨_, by simp only [Option.getD_some, bind, Except.bind, htruthy, if_true, pySlice]; rfl⟩
    · exact ⟨[], by simp only [Option.getD_some, bind, Except.bind, htruthy]; rfl⟩

theorem alertTime_obj (status : Json) : ∃ ts, alertTime (.obj fields) status = .ok ts := by
  unfold alertTime
  simp only [pyGet_obj, bind, Except.bind]
  split <;> exact ⟨_, rfl⟩

theorem WellFormedAlert.embed {alert : Json} (h : WellFormedAlert alert) :
    ∃ embed, alertEmbed alert = .ok embed := by
  obtain ⟨fields, rfl, -, hlabels, hannotations⟩ := h
  obtain ⟨labels, hlabels, -⟩ := hlabels.read
  obtain ⟨annotations, hannotations, htexts⟩ := hannotations.read
  obtain ⟨summary, hsummary⟩ := annotationField_text htexts "summary" "Summary" 200
  obtain ⟨description, hdescription⟩ := annotationField_text htexts "description" "Description" 400
  obtain ⟨ts, hts⟩ :
      ∃ ts, alertTime (.obj fields) ((fields.get? "status").getD (.str "unknown")) = .ok ts :=
    alertTime_obj _
  unfold alertEmbed
  simp only [pyGet_obj, hlabels, hannotations, hsummary, hdescription, hts, bind, Except.bind]
  exact ⟨_, rfl⟩

end Embed

/-! ## The loop -/

section Batches

variable {w : Alerter} {attempts : Nat → Attempt} {batches : List (List Json)} {k n : Nat}

/-- What the start of a turn leaves as it is. -/
theorem waitTurn_frame (w : Alerter) (a : Attempt) :
    (w.waitTurn a).posts = w.posts ∧ (w.waitTurn a).minInterval = w.minInterval := by
  unfold Alerter.waitTurn
  dsimp only
  split <;> exact ⟨rfl, rfl⟩

/-- A turn posts its batch. -/
theorem sendBatch_frame (w : Alerter) (a : Attempt) (batch : List Json) :
    (w.sendBatch a batch).1.posts = w.posts ++
      [⟨(w.waitTurn a).now, batch, a.outcome = .accepted⟩] ∧
      (w.sendBatch a batch).1.minInterval = w.minInterval := by
  obtain ⟨hposts, hmin⟩ := waitTurn_frame w a
  rw [← hposts, ← hmin]
  unfold Alerter.sendBatch
  dsimp only
  split <;> exact ⟨rfl, rfl⟩

/-- A batch counts if it is accepted, and ends the loop if the body of its refusal cannot be
decoded. -/
theorem sendBatch_result (w : Alerter) (a : Attempt) (batch : List Json) :
    a.outcome = .httpError none ∧ (∃ e, (w.sendBatch a batch).2 = .error e) ∨
      a.outcome ≠ .httpError none ∧
        (w.sendBatch a batch).2 = .ok (if a.outcome = .accepted then batch.length else 0) := by
  unfold Alerter.sendBatch
  dsimp only
  cases a.outcome with
  | accepted => exact .inr ⟨by simp, rfl⟩
  | failed => exact .inr ⟨by simp, rfl⟩
  | httpError body =>
    cases body with
    | none => exact .inl ⟨rfl, _, rfl⟩
    | some body => exact .inr ⟨by simp, rfl⟩

/-- The batches, the POSTs they are sent with, and what is counted of them. -/
structure PostedBatches (attempts : Nat → Attempt) (batches : List (List Json)) (k : Nat)
    (posts : List WebhookPost) (sent : Nat) : Prop where
  embeds : posts.map (·.embeds) = batches
  accepted : posts.map (·.accepted) =
    (List.range' k batches.length).map fun j => decide ((attempts j).outcome = .accepted)
  sent : sent = ((posts.filter (·.accepted)).map fun post => post.embeds.length).sum

/-- A loop that comes to its end has posted all batches. -/
theorem sendBatches_posted (h : ∀ j ∈ List.range' k batches.length, (attempts j).outcome ≠
    .httpError none) :
    ∃ posts sent, (w.sendBatches attempts batches k).1.posts = w.posts ++ posts ∧
      (w.sendBatches attempts batches k).2 = .ok sent ∧
      PostedBatches attempts batches k posts sent := by
  induction batches generalizing w k with
  | nil => exact ⟨[], 0, (List.append_nil _).symm, rfl, rfl, rfl, rfl⟩
  | cons batch batches ih =>
    rw [List.length_cons, List.range'_succ, List.forall_mem_cons] at h
    have hpost := (sendBatch_frame w (attempts k) batch).1
    obtain ⟨hbad, -⟩ | ⟨-, hresult⟩ := sendBatch_result w (attempts k) batch
    · exact absurd hbad h.1
    cases hsend : w.sendBatch (attempts k) batch with
    | mk w' result =>
      rw [hsend] at hpost hresult
      obtain rfl : result = _ := hresult
      obtain ⟨posts, later, hposts, hlater, hposted⟩ :
          ∃ posts later, (w'.sendBatches attempts batches (k + 1)).1.posts = w'.posts ++ posts ∧
            (w'.sendBatches attempts batches (k + 1)).2 = .ok later ∧
            PostedBatches attempts batches (k + 1) posts later := ih h.2
      cases hloop : w'.sendBatches attempts batches (k + 1) with
      | mk w'' result =>
        rw [hloop] at hposts hlater
        obtain rfl : result = .ok later := hlater
        refine ⟨⟨(w.waitTurn (attempts k)).now, batch, (attempts k).outcome = .accepted⟩ :: posts,
          (if (attempts k).outcome = .accepted then batch.length else 0) + later, ?_, ?_, ?_⟩
        · simp only [Alerter.sendBatches, hsend, hloop]
          rw [hposts, hpost, List.append_assoc]
          rfl
        · simp only [Alerter.sendBatches, hsend, hloop]
        · refine ⟨by rw [List.map_cons, hposted.embeds], ?_, ?_⟩
          · rw [List.map_cons, List.length_cons, List.range'_succ, List.map_cons, hposted.accepted]
          · rw [List.filter_cons, hposted.sent]
            by_cases hok : (attempts k).outcome = .accepted <;> simp [hok]

/-- Only a body that cannot be decoded keeps the loop from its end. -/
theorem decodable_of_sendBatches (h : (w.sendBatches attempts batches k).2 = .ok n) :
    ∀ j ∈ List.range' k batches.length, (attempts j).outcome ≠ .httpError none := by
  induction batches generalizing w k n with
  | nil => exact fun _ h => absurd h List.not_mem_nil
  | cons batch batches ih =>
    rw [List.length_cons, List.range'_succ, List.forall_mem_cons]
    cases hsend : w.sendBatch (attempts k) batch with
    | mk w' result =>
      have hresult := sendBatch_result w (attempts k) batch
      rw [hsend] at hresult
      rcases hresult with ⟨-, e, rfl⟩ | ⟨hdecodable, rfl⟩
      · simp only [Alerter.sendBatches, hsend] at h
        cases h
      · refine ⟨hdecodable, ?_⟩
        cases hloop : w'.sendBatches attempts batches (k + 1) with
        | mk w'' result =>
          cases result with
          | error e =>
            simp only [Alerter.sendBatches, hsend, hloop] at h
            cases h
          | ok later => exact ih (congrArg Prod.snd hloop)

end Batches

/-! ## The sender -/

/-- What `send_alertmanager_alerts` is to do with `alerts`: return, post every alert once and in
order, in batches of at most ten that are all tried, and count those of the accepted batches. -/
structure Batched (attempts : Nat → Attempt) (alerts : List Json) (w : Alerter)
    (result : Alerter × Except String Nat) : Prop where
  posted : ∃ posts sent, result.1.posts = w.posts ++ posts ∧ result.2 = .ok sent ∧
    (∀ post ∈ posts, post.embeds.length ≤ 10) ∧
    List.Forall₂ (fun alert embed => alertEmbed alert = .ok embed) alerts
      (posts.flatMap (·.embeds)) ∧
    posts.map (·.accepted) =
      (List.range posts.length).map (fun j => decide ((attempts j).outcome = .accepted)) ∧
    sent = ((posts.filter (·.accepted)).map fun post => post.embeds.length).sum

/-- How many batches a list of alerts takes. -/
def batchCount (alerts : List Json) : Nat := (alerts.length + 9) / 10

section Send

variable {w : Alerter} {attempts : Nat → Attempt} {payload x : Json}

theorem send_disabled (h : w.webhookUrl = "") :
    w.sendAlertmanagerAlerts attempts payload = (w, .ok 0) := by
  unfold Alerter.sendAlertmanagerAlerts
  rw [if_pos h]

theorem send_nothing (henabled : w.webhookUrl ≠ "") (hx : pyGet payload "alerts" (.arr []) = .ok x)
    (hfalsy : pyTruthy x = false) : w.sendAlertmanagerAlerts attempts payload = (w, .ok 0) := by
  simp only [Alerter.sendAlertmanagerAlerts, henabled, hx, hfalsy, if_false]
  rfl

theorem send_unformatted {e : String} (henabled : w.webhookUrl ≠ "")
    (hx : pyGet payload "alerts" (.arr []) = .ok x) (htruthy : pyTruthy x = true)
    (he : alertEmbeds x = .error e) :
    w.sendAlertmanagerAlerts attempts payload = (w, .error e) := by
  simp only [Alerter.sendAlertmanagerAlerts, henabled, hx, htruthy, he, if_false]
  rfl

theorem send_embeds {embeds : List Json} (henabled : w.webhookUrl ≠ "")
    (hx : pyGet payload "alerts" (.arr []) = .ok x) (htruthy : pyTruthy x = true)
    (hembeds : alertEmbeds x = .ok embeds) :
    w.sendAlertmanagerAlerts attempts payload =
      w.sendBatches attempts (TableDef.chunked 10 embeds) 0 := by
  simp only [Alerter.sendAlertmanagerAlerts, henabled, hx, htruthy, hembeds, if_false]
  rfl

/-- A list of alerts that can be formatted is sent. -/
theorem send_alerts {fields : JsonObject} {alerts embeds : List Json} (henabled : w.webhookUrl ≠ "")
    (hpayload : fields.get? "alerts" = some (.arr alerts))
    (hembeds : alerts.mapM alertEmbed = .ok embeds) :
    w.sendAlertmanagerAlerts attempts (.obj fields) = w.sendBatches attempts
      (TableDef.chunked 10 embeds) 0 := by
  have hx : pyGet (.obj fields) "alerts" (.arr []) = .ok (.arr alerts) := by
    rw [pyGet_obj, hpayload]
    rfl
  cases alerts with
  | nil =>
    cases hembeds
    exact send_nothing henabled hx rfl
  | cons alert alerts => exact send_embeds henabled hx rfl hembeds

end Send

theorem chunked_length (l : List Json) : (TableDef.chunked 10 l).length = (l.length + 9) / 10 := by
  unfold TableDef.chunked
  rw [List.length_map, List.length_range]
  omega

theorem chunked_short {l chunk : List Json} (h : chunk ∈ TableDef.chunked 10 l) :
    chunk.length ≤ 10 := by
  obtain ⟨k, -, rfl⟩ := List.mem_map.1 h
  exact List.length_take_le 10 _

/-- **Batching is exact** exactly if no POST is refused with a body that cannot be decoded. -/
theorem alerts_batched_iff (w : Alerter) (attempts : Nat → Attempt) (payload : JsonObject)
    (alerts : List Json) (henabled : w.webhookUrl ≠ "")
    (hpayload : payload.get? "alerts" = some (.arr alerts))
    (hwell : ∀ alert ∈ alerts, WellFormedAlert alert) :
    Batched attempts alerts w (w.sendAlertmanagerAlerts attempts (.obj payload)) ↔
      ∀ j < batchCount alerts, (attempts j).outcome ≠ .httpError none := by
  obtain ⟨embeds, hembeds⟩ := mapM_returns.2 fun alert halert => (hwell alert halert).embed
  have hall := mapM_ok.1 hembeds
  rw [send_alerts henabled hpayload hembeds]
  have hcount : (TableDef.chunked 10 embeds).length = batchCount alerts := by
    rw [chunked_length, ← hall.length_eq]
    rfl
  have hrange : (∀ j ∈ List.range' 0 (TableDef.chunked 10 embeds).length, (attempts j).outcome ≠
      .httpError none) ↔
      ∀ j < batchCount alerts, (attempts j).outcome ≠ .httpError none := by
    rw [hcount, ← List.range_eq_range']
    simp only [List.mem_range]
  rw [← hrange]
  constructor
  · rintro ⟨posts, sent, -, hsent, -⟩
    exact decodable_of_sendBatches hsent
  · intro h
    obtain ⟨posts, sent, hposts, hsent, hposted⟩ :
        ∃ posts sent,
          (w.sendBatches attempts (TableDef.chunked 10 embeds) 0).1.posts = w.posts ++ posts ∧
          (w.sendBatches attempts (TableDef.chunked 10 embeds) 0).2 = .ok sent ∧
          PostedBatches attempts (TableDef.chunked 10 embeds) 0 posts sent := sendBatches_posted h
    have hlength : posts.length = (TableDef.chunked 10 embeds).length := by
      rw [← hposted.embeds, List.length_map]
    refine ⟨posts, sent, hposts, hsent, fun post hpost => ?_, ?_, ?_, hposted.sent⟩
    · have hmem : post.embeds ∈ TableDef.chunked 10 embeds := by
        rw [← hposted.embeds]
        exact List.mem_map_of_mem hpost
      exact chunked_short hmem
    · rw [List.flatMap_def, hposted.embeds, TableDef.chunked_flatten (by decide)]
      exact hall
    · rw [hposted.accepted, hlength, List.range_eq_range']

/-! ## Eleven alerts -/

def sampleAlert : Json := .obj [
  ("status", .str "firing"),
  ("labels", .obj [("alertname", .str "HighErrorRate"), ("severity", .str "critical")]),
  ("annotations", .obj [("summary", .str "5xx above one percent")]),
  ("startsAt", .str "2026-03-01T12:00:00Z")]

def elevenAlerts : List Json := List.replicate 11 sampleAlert

def samplePayload (alerts : List Json) : JsonObject := [("alerts", .arr alerts)]

def sampleAlerter : Alerter := ⟨"https://discord.com/api/webhooks/1", 1, 0, 1, []⟩

def atOnce (outcome : PostOutcome) : Attempt := ⟨0, 0, 0, 0, 0, outcome⟩

theorem sampleAlert_wellFormed : WellFormedAlert sampleAlert := by
  refine ⟨_, rfl, fun x hx => ?_, fun x hx => ?_, fun x hx => ?_⟩
  · cases hx
    exact ⟨_, rfl⟩
  · cases hx
    exact ⟨_, rfl, by simp⟩
  · cases hx
    exact ⟨_, rfl, by simp⟩

theorem alerts_batched_sample : Batched (fun _ => atOnce .failed) elevenAlerts sampleAlerter
    (sampleAlerter.sendAlertmanagerAlerts (fun _ => atOnce .failed)
      (.obj (samplePayload elevenAlerts))) := by
  refine (alerts_batched_iff sampleAlerter _ (samplePayload elevenAlerts) elevenAlerts (by decide)
    rfl ?_).2 ?_
  · intro alert halert
    rw [List.eq_of_mem_replicate halert]
    exact sampleAlert_wellFormed
  · intro j _
    simp [atOnce]

/-- Discord refuses the first batch, with a body that is not UTF-8. -/
theorem refused_batch_ends_loop :
    let attempts (k : Nat) := atOnce (if k = 0 then .httpError none else .accepted)
    ¬ Batched attempts elevenAlerts sampleAlerter
      (sampleAlerter.sendAlertmanagerAlerts attempts (.obj (samplePayload elevenAlerts))) := by
  rintro attempts ⟨posts, sent, -, hsent, -⟩
  cases hsent

end PeHackathon.Dashboard
