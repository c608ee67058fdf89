import Mathlib.Data.List.Chain
import PeHackathon.Dashboard.WebhookBatches
import PeHackathon.Lib.Loop

/-!
# The rate guard of the Discord alerter

Both senders keep `_min_interval` from `_last_sent`, which is set only after a POST that succeeded,
by `send_alert` to the reading before it. So POSTs are spaced as long as no sender reads the clock
within the interval of a POST that `_last_sent` does not cover (`posts_spaced`): one that failed, or
one of `send_alert` that began after its reading. A sender that does so, and loses no time, breaks
the spacing (`uncovered_alert`, `uncovered_batch`).
-/

namespace PeHackathon.Dashboard

open Lib

/-! ## Runs -/

/-- A call on the alerter, after some time without one. -/
inductive SenderCall
  | maybeAlert (idle : Nat) (attempt : Attempt) (entry : JsonObject)
  | alertmanager (idle : Nat) (attempts : Nat → Attempt) (payload : Json)

namespace Alerter

def new (webhookUrl : String) (minInterval now : Int) : Alerter :=
  ⟨webhookUrl, minInterval, 0, now, []⟩

variable (py : PyCase)

def call (w : Alerter) : SenderCall → Alerter
  | .maybeAlert idle attempt entry => (w.wait idle).maybeAlert py attempt entry
  | .alertmanager idle attempts payload => ((w.wait idle).sendAlertmanagerAlerts attempts payload).1

/-- Calls one after the other. -/
def run (w : Alerter) (calls : List SenderCall) : Alerter := calls.foldl (call py) w

/-- Two POSTs in a row start at least `_min_interval` apart. -/
def Spaced (w : Alerter) : Prop := w.posts.IsChain fun p q => p.start + w.minInterval ≤ q.start

/-- At this reading of the clock, `_last_sent` is not before the start of the last POST, or that is
long enough ago. -/
def CoveredAt (w : Alerter) (now : Int) : Prop :=
  ∀ post ∈ w.posts.getLast?, post.start ≤ w.lastSent ∨ post.start + w.minInterval ≤ now

/-- `send_alert` gets past its guard and has an embed to post. -/
def Alerts (attempt : Attempt) (entry : JsonObject) (w : Alerter) : Prop :=
  w.webhookUrl ≠ "" ∧ DiscordAlerter.shouldAlert py entry = some true ∧
    w.minInterval ≤ w.now + attempt.untilRead - w.lastSent ∧ ∃ embed, logEmbed entry = .ok embed

/-- Each batch reads the clock when the POST before it is covered. -/
def BatchesCovered (attempts : Nat → Attempt) : List (List Json) → Nat → Alerter → Prop
  | [], _, _ => True
  | batch :: batches, k, w => w.CoveredAt (w.now + (attempts k).untilRead) ∧
      BatchesCovered attempts batches (k + 1) (w.sendBatch (attempts k) batch).1

end Alerter

/-- What a run asks of a call: a sender that is going to post reads the clock when the last POST is
covered. -/
def SenderCall.Covered (py : PyCase) (w : Alerter) : SenderCall → Prop
  | .maybeAlert idle attempt entry =>
    (w.wait idle).Alerts py attempt entry →
      (w.wait idle).CoveredAt ((w.wait idle).now + attempt.untilRead)
  | .alertmanager idle attempts payload => ∀ alerts embeds,
    pyGet payload "alerts" (.arr []) = .ok alerts → alertEmbeds alerts = .ok embeds →
      (w.wait idle).BatchesCovered attempts (TableDef.chunked 10 embeds) 0

def CoveredRun (py : PyCase) (w : Alerter) (calls : List SenderCall) : Prop :=
  Throughout (fun w call => call.Covered py w) (Alerter.call py) w calls

/-! ## One POST -/

section Post

variable {w : Alerter} {a : Attempt} {batch : List Json}

theorem spaced_snoc {w' : Alerter} {post : WebhookPost} (hposts : w'.posts = w.posts ++ [post])
    (hmin : w'.minInterval = w.minInterval) :
    w'.Spaced ↔ w.Spaced ∧ ∀ last ∈ w.posts.getLast?, last.start + w.minInterval ≤ post.start := by
  unfold Alerter.Spaced
  rw [hposts, hmin, List.isChain_append]
  simp

/-- A batch starts no earlier than its reading of the clock, and keeps the interval from
`_last_sent`. -/
theorem waitTurn_now :
    w.now + a.untilRead ≤ (w.waitTurn a).now ∧ w.lastSent + w.minInterval ≤ (w.waitTurn a).now := by
  unfold Alerter.waitTurn
  dsimp only [Alerter.wait]
  split
  all_goals
    dsimp only [Alerter.wait]
    omega

theorem sendBatch_spaced (h : w.Spaced) (hcovered : w.CoveredAt (w.now + a.untilRead)) :
    (w.sendBatch a batch).1.Spaced := by
  obtain ⟨hposts, hmin⟩ := sendBatch_frame w a batch
  obtain ⟨hread, hguard⟩ := @waitTurn_now w a
  refine (spaced_snoc hposts hmin).2 ⟨h, fun last hlast => ?_⟩
  have hlast := hcovered last hlast
  dsimp only
  omega

/-- Everything `send_alert` can do. -/
theorem sendAlert_cases {entry : JsonObject} :
    ((w.sendAlert a entry).posts = w.posts ∧ (w.sendAlert a entry).lastSent = w.lastSent ∨
      w.minInterval ≤ w.now + a.untilRead - w.lastSent ∧ ∃ embed, logEmbed entry = .ok embed ∧
        (w.sendAlert a entry).posts =
          w.posts ++ [⟨w.now + a.untilRead + a.untilPost, [embed], a.outcome = .accepted⟩] ∧
        (w.sendAlert a entry).lastSent =
          if a.outcome = .accepted then w.now + a.untilRead else w.lastSent) ∧
    (w.sendAlert a entry).minInterval = w.minInterval ∧
    (w.sendAlert a entry).webhookUrl = w.webhookUrl := by
  unfold Alerter.sendAlert
  dsimp only [Alerter.wait]
  split
  · exact ⟨.inl ⟨rfl, rfl⟩, rfl, rfl⟩
  · rename_i hguard
    cases hembed : logEmbed entry with
    | error e => exact ⟨.inl ⟨rfl, rfl⟩, rfl, rfl⟩
    | ok embed =>
      dsimp only [Alerter.post]
      cases a.outcome with
      | accepted => exact ⟨.inr ⟨by omega, embed, rfl, rfl, rfl⟩, rfl, rfl⟩
      | httpError body => exact ⟨.inr ⟨by omega, embed, rfl, rfl, rfl⟩, rfl, rfl⟩
      | failed => exact ⟨.inr ⟨by omega, embed, rfl, rfl, rfl⟩, rfl, rfl⟩

theorem sendAlert_spaced {entry : JsonObject} (h : w.Spaced)
    (hcovered : w.minInterval ≤ w.now + a.untilRead - w.lastSent →
      (∃ embed, logEmbed entry = .ok embed) →
      w.CoveredAt (w.now + a.untilRead)) : (w.sendAlert a entry).Spaced := by
  obtain ⟨hcases, hmin, -⟩ := @sendAlert_cases w a entry
  rcases hcases with ⟨hposts, -⟩ | ⟨hguard, embed, hembed, hposts, -⟩
  · unfold Alerter.Spaced
    rw [hposts, hmin]
    exact h
  · refine (spaced_snoc hposts hmin).2 ⟨h, fun last hlast => ?_⟩
    have hlast := hcovered hguard ⟨embed, hembed⟩ last hlast
    dsimp only
    omega

end Post

/-! ## Calls -/

section Call

variable {py : PyCase} {w : Alerter}

/-- After a batch the loop goes on, or what the batch raised ends it. -/
theorem sendBatches_cons (attempts : Nat → Attempt) (batch : List Json) (batches : List (List Json))
    (k : Nat) :
    (w.sendBatches attempts (batch :: batches) k).1 = (w.sendBatch (attempts k) batch).1 ∨
      (w.sendBatches attempts (batch :: batches) k).1 =
        ((w.sendBatch (attempts k) batch).1.sendBatches attempts batches (k + 1)).1 := by
  cases hsend : w.sendBatch (attempts k) batch with
  | mk w' result =>
    cases result with
    | error e => exact .inl (by simp only [Alerter.sendBatches, hsend])
    | ok sent =>
      right
      cases hloop : w'.sendBatches attempts batches (k + 1) with
      | mk w'' result => cases result <;> simp only [Alerter.sendBatches, hsend, hloop]

theorem sendBatches_spaced {attempts : Nat → Attempt} {batches : List (List Json)} {k : Nat}
    (h : w.Spaced) (hcovered : w.BatchesCovered attempts batches k) :
    (w.sendBatches attempts batches k).1.Spaced := by
  induction batches generalizing w k with
  | nil => exact h
  | cons batch batches ih =>
    have hbatch : (w.sendBatch (attempts k) batch).1.Spaced := sendBatch_spaced h hcovered.1
    rcases sendBatches_cons attempts batch batches k with hends | hgoes
    · rw [hends]
      exact hbatch
    · rw [hgoes]
      exact ih hbatch hcovered.2

theorem call_spaced {call : SenderCall} (h : w.Spaced) (hcovered : call.Covered py w) :
    (w.call py call).Spaced := by
  cases call with
  | maybeAlert idle attempt entry =>
    unfold Alerter.call Alerter.maybeAlert
    dsimp only
    split
    · exact h
    · rename_i henabled
      split
      · rename_i hshould
        exact sendAlert_spaced h fun hguard hembed => hcovered ⟨henabled, hshould, hguard, hembed⟩
      · exact h
  | alertmanager idle attempts payload =>
    unfold Alerter.call Alerter.sendAlertmanagerAlerts
    dsimp only
    split
    · exact h
    · split
      · exact h
      · rename_i alerts halerts
        split
        · exact h
        · split
          · exact h
          · rename_i embeds hembeds
            exact sendBatches_spaced h (hcovered alerts embeds halerts hembeds)

end Call

/-- **POSTs are spaced** in a run whose senders read the clock only when the last POST is
covered. -/
theorem posts_spaced (py : PyCase) (webhookUrl : String) (minInterval start : Int)
    (calls : List SenderCall) (h : CoveredRun py (.new webhookUrl minInterval start) calls) :
    ((Alerter.new webhookUrl minInterval start).run py calls).Spaced := by
  have hstart : (Alerter.new webhookUrl minInterval start).Spaced := .nil
  exact Throughout.keeps (fun _ _ hspaced hcovered => call_spaced hspaced hcovered) hstart h

/-! ## Senders that are covered, and senders that are not -/

section Fresh

variable {py : PyCase} {w : Alerter} {a : Attempt} {batch : List Json} {entry : JsonObject}

/-- `_last_sent` is not before the start of the last POST. -/
def Alerter.Fresh (w : Alerter) : Prop := ∀ post ∈ w.posts.getLast?, post.start ≤ w.lastSent

theorem Alerter.Fresh.covered (h : w.Fresh) (now : Int) : w.CoveredAt now :=
  fun post hpost => .inl (h post hpost)

theorem fresh_snoc {w' : Alerter} {post : WebhookPost} (hposts : w'.posts = w.posts ++ [post])
    (hsent : post.start ≤ w'.lastSent) : w'.Fresh := by
  intro last hlast
  rw [hposts, List.getLast?_append] at hlast
  obtain rfl : post = last := Option.some.inj hlast
  exact hsent

theorem sendAlert_fresh (h : w.Fresh) (haccepted : a.outcome = .accepted)
    (hprompt : a.untilPost = 0) :
    (w.sendAlert a entry).Fresh := by
  obtain ⟨⟨hposts, hsent⟩ | ⟨-, embed, -, hposts, hsent⟩, -⟩ := @sendAlert_cases w a entry
  · unfold Alerter.Fresh
    rw [hposts, hsent]
    exact h
  · refine fresh_snoc hposts ?_
    rw [hsent, if_pos haccepted, hprompt]
    exact Int.le_of_eq (Int.add_zero _)

theorem sendBatch_fresh (haccepted : a.outcome = .accepted) : (w.sendBatch a batch).1.Fresh := by
  refine fresh_snoc (sendBatch_frame w a batch).1 ?_
  unfold Alerter.sendBatch
  rw [haccepted]
  dsimp only [Alerter.wait, Alerter.post]
  omega

theorem sendBatches_fresh {attempts : Nat → Attempt}
    (haccepted : ∀ k, (attempts k).outcome = .accepted) {batches : List (List Json)} {k : Nat}
    (h : w.Fresh) :
    w.BatchesCovered attempts batches k ∧ (w.sendBatches attempts batches k).1.Fresh := by
  induction batches generalizing w k with
  | nil => exact ⟨trivial, h⟩
  | cons batch batches ih =>
    have hbatch : (w.sendBatch (attempts k) batch).1.Fresh := sendBatch_fresh (haccepted k)
    obtain ⟨hcovered, hfresh⟩ := ih hbatch
    refine ⟨⟨h.covered _, hcovered⟩, ?_⟩
    rcases sendBatches_cons attempts batch batches k with hends | hgoes
    · rw [hends]
      exact hbatch
    · rw [hgoes]
      exact hfresh

/-- Every POST of the call is accepted, and `send_alert` loses no time before it. -/
def SenderCall.Prompt : SenderCall → Prop
  | .maybeAlert _ attempt _ => attempt.outcome = .accepted ∧ attempt.untilPost = 0
  | .alertmanager _ attempts _ => ∀ k, (attempts k).outcome = .accepted

theorem call_fresh {call : SenderCall} (h : w.Fresh) (hprompt : call.Prompt) :
    call.Covered py w ∧ (w.call py call).Fresh := by
  cases call with
  | maybeAlert idle attempt entry =>
    have hidle : (w.wait idle).Fresh := h
    refine ⟨fun _ => hidle.covered _, ?_⟩
    unfold Alerter.call Alerter.maybeAlert
    dsimp only
    split
    · exact hidle
    · split
      · exact sendAlert_fresh hidle hprompt.1 hprompt.2
      · exact hidle
  | alertmanager idle attempts payload =>
    have hidle : (w.wait idle).Fresh := h
    refine ⟨fun _ embeds _ _ => (sendBatches_fresh hprompt hidle).1, ?_⟩
    unfold Alerter.call Alerter.sendAlertmanagerAlerts
    dsimp only
    split
    · exact hidle
    · split
      · exact hidle
      · split
        · exact hidle
        · split
          · exact hidle
          · exact (sendBatches_fresh hprompt hidle).2

/-- While Discord accepts every POST, the last one is covered. -/
theorem covered_of_prompt {calls : List SenderCall} (h : w.Fresh)
    (hprompt : ∀ call ∈ calls, call.Prompt) :
    CoveredRun py w calls := by
  have hstep : ∀ (w : Alerter) (call : SenderCall), w.Fresh → call.Prompt →
      call.Covered py w ∧ (w.call py call).Fresh := fun w call => call_fresh
  exact Throughout.of_invariant hstep h hprompt

/-- A log entry that is posted at once, when the last POST is not covered, comes too early. -/
theorem uncovered_alert (hcovered : ¬ w.CoveredAt (w.now + a.untilRead)) (hprompt : a.untilPost = 0)
    (hposts : (w.sendAlert a entry).posts ≠ w.posts) : ¬ (w.sendAlert a entry).Spaced := by
  obtain ⟨⟨hsame, -⟩ | ⟨-, embed, -, hsnoc, -⟩, hmin, -⟩ := @sendAlert_cases w a entry
  · exact absurd hsame hposts
  · rw [spaced_snoc hsnoc hmin]
    rintro ⟨-, hlast⟩
    refine hcovered fun post hpost => .inr ?_
    have hpost := hlast post hpost
    dsimp only at hpost
    omega

/-- So does a batch. -/
theorem uncovered_batch (hcovered : ¬ w.CoveredAt (w.now + a.untilRead)) (hprompt : a.untilPost = 0)
    (hslept : a.overslept = 0) : ¬ (w.sendBatch a batch).1.Spaced := by
  obtain ⟨hsnoc, hmin⟩ := sendBatch_frame w a batch
  rw [spaced_snoc hsnoc hmin]
  rintro ⟨-, hlast⟩
  refine hcovered fun post hpost => ?_
  have hpost := hlast post hpost
  unfold Alerter.waitTurn at hpost
  dsimp only [Alerter.wait] at hpost
  split at hpost
  all_goals
    dsimp only at hpost
    omega

end Fresh

/-! ## The alerter of the consumer -/

theorem logEmbed_isOk {entry : JsonObject} {status : Int}
    (h : DiscordAlerter.statusOf entry = some status) :
    (∃ embed, logEmbed entry = .ok embed) ↔
      ∃ message, pySlice ((entry.get? "message").getD (.str "")) 200 = .ok message := by
  unfold logEmbed
  rw [h]
  simp only [bind, Except.bind, pure, Except.pure]
  split
  · rename_i hmessage
    simp [hmessage]
  · rename_i message hmessage
    exact iff_of_true ⟨_, rfl⟩ ⟨message, hmessage⟩

/-- `send_alert` as the consumer has it. -/
theorem sendAlert_lastSent (w : Alerter) (a : Attempt) (entry : JsonObject)
    (h : w.minInterval = 1000000) {status : Int}
    (hstatus : DiscordAlerter.statusOf entry = some status) :
    (DiscordAlerter.sendAlert ⟨w.now + a.untilRead, a.outcome = .accepted⟩ entry
      ⟨w.webhookUrl, w.lastSent⟩).getD
      ⟨w.webhookUrl, w.lastSent⟩ = ⟨w.webhookUrl, (w.sendAlert a entry).lastSent⟩ := by
  unfold DiscordAlerter.sendAlert Alerter.sendAlert
  dsimp only [Alerter.wait]
  rw [h, hstatus]
  by_cases hguard : w.now + a.untilRead - w.lastSent < 1000000
  · rw [if_pos hguard, if_pos hguard]
    rfl
  · rw [if_neg hguard, if_neg hguard]
    have hembed := logEmbed_isOk hstatus
    cases hmessage : (entry.get? "message").getD (.str "") with
    | str message =>
      rw [hmessage] at hembed
      obtain ⟨embed, hembed⟩ := hembed.2 ⟨_, rfl⟩
      rw [hembed]
      cases a.outcome <;> rfl
    | arr message =>
      rw [hmessage] at hembed
      obtain ⟨embed, hembed⟩ := hembed.2 ⟨_, rfl⟩
      rw [hembed]
      cases a.outcome <;> rfl
    | _ =>
      rw [hmessage] at hembed
      cases hlog : logEmbed entry with
      | error e => rfl
      | ok embed =>
        obtain ⟨message, hslice⟩ := hembed.1 ⟨embed, hlog⟩
        cases hslice

/-- What the consumer keeps of the alerter is `_last_sent`. -/
theorem maybeAlert_lastSent (py : PyCase) (w : Alerter) (a : Attempt) (entry : JsonObject)
    (h : w.minInterval = 1000000) :
    DiscordAlerter.maybeAlert py ⟨w.now + a.untilRead, a.outcome = .accepted⟩ entry
      ⟨w.webhookUrl, w.lastSent⟩ =
      ⟨w.webhookUrl, (w.maybeAlert py a entry).lastSent⟩ := by
  unfold DiscordAlerter.maybeAlert Alerter.maybeAlert
  by_cases hdisabled : w.webhookUrl = ""
  · rw [if_pos hdisabled, if_pos hdisabled]
  rw [if_neg hdisabled, if_neg hdisabled]
  cases hshould : DiscordAlerter.shouldAlert py entry with
  | none => rfl
  | some alerts =>
    cases alerts with
    | false => rfl
    | true =>
      obtain ⟨status, hstatus, -⟩ := Option.bind_eq_some_iff.1 hshould
      exact sendAlert_lastSent w a entry h hstatus

/-! ## Two errors in a row -/

def errorEntry : JsonObject := [("status_code", .int 500)]

/-- Two errors, the second so long after the first, whose POST fails. -/
def twoErrors (idle : Nat) : List SenderCall :=
  [.maybeAlert 0 (atOnce .failed) errorEntry, .maybeAlert idle (atOnce .accepted) errorEntry]

theorem posts_spaced_sample :
    ((Alerter.new "https://discord.com/api/webhooks/1" 1 1).run samplePyCase
    (twoErrors 5)).Spaced := by
  refine posts_spaced samplePyCase "https://discord.com/api/webhooks/1" 1 1 (twoErrors 5)
    ⟨?_, ?_, trivial⟩
  · exact fun _ post hpost => nomatch hpost
  · intro _ post hpost
    obtain rfl := Option.some.inj hpost
    right
    decide

/-- The POST of the first failed, and the second does not wait. -/
theorem failed_post_not_spaced :
    ¬ ((Alerter.new "https://discord.com/api/webhooks/1" 1 1).run samplePyCase
    (twoErrors 0)).Spaced := by
  intro h
  have hpair : [(⟨1, _, false⟩ : WebhookPost), ⟨1, _, true⟩].IsChain fun p q => p.start +
    1 ≤ q.start := h
  have hapart := List.isChain_pair.1 hpair
  change (1 : Int) + 1 ≤ 1 at hapart
  omega

end PeHackathon.Dashboard
