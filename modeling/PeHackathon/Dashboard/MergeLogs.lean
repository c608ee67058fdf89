import PeHackathon.Dashboard.MergedLogs
import PeHackathon.UrlShortener.LogTimestamp

/-!
# What `_merge_logs` keeps

`mergeLogs_spec`: the loop answers the first entries of the stably sorted inputs without repeated
keys. `merge_keeps_lines_iff`: a line that the limit does not cut off is still there in every field
just when no two lines up to the limit have one key and different fields. Two requests of one
instance at one instant do, when the middleware logs in JSON (`same_instant_hidden`): the text of
such a line says nothing of its request.
-/

namespace PeHackathon.Dashboard

open Lib

/-! ## The specification -/

section Merge

variable (mem db : List JsonObject) (limit : Nat)

/-- The entries in the order of their timestamps, newest first, and those of one timestamp in the
order of the inputs. -/
structure IsSortedStably (entries result : List JsonObject) : Prop where
  perm : result.Perm entries
  sorted : result.Pairwise fun a b => tsSortKey b ≤ tsSortKey a
  stable : ∀ time, result.filter (tsSortKey · = time) = entries.filter (tsSortKey · = time)

theorem newestFirst_stably (entries : List JsonObject) :
    IsSortedStably entries (newestFirst entries) where
  perm := List.perm_insertionSort _ entries
  sorted := newestFirst_sorted entries
  stable := insertionSort_filter_key tsSortKey entries

/-- **`_merge_logs` meets its specification.** -/
theorem mergeLogs_spec (hlimit : 1 ≤ limit) :
    IsMerge mem db limit (mergeLogs mem db limit) ∧
      ∃ sorted, IsSortedStably (mem ++ db) sorted ∧
        mergeLogs mem db limit = (sorted.eraseDupsBy fun a b => logEntryKey a = logEntryKey b).take
          limit := by
  refine ⟨mergeLogs_isMerge mem db hlimit, newestFirst (mem ++ db), newestFirst_stably _, ?_⟩
  rw [mergeLogs, takeDistinct_eq_take logEntryKey hlimit]
  simp

theorem mergeLogs_spec_sample :
    IsMerge [lineAt "2026-01-01T00:00:01Z" "b"] [lineAt "2026-01-01T00:00:02Z" "a"] 1
        (mergeLogs [lineAt "2026-01-01T00:00:01Z" "b"] [lineAt "2026-01-01T00:00:02Z" "a"] 1) ∧
      ∃ sorted, IsSortedStably ([lineAt "2026-01-01T00:00:01Z" "b"] ++
        [lineAt "2026-01-01T00:00:02Z" "a"]) sorted ∧
        mergeLogs [lineAt "2026-01-01T00:00:01Z" "b"] [lineAt "2026-01-01T00:00:02Z" "a"] 1 =
          (sorted.eraseDupsBy fun a b => logEntryKey a = logEntryKey b).take 1 :=
  mergeLogs_spec _ _ 1 (Nat.le_refl 1)

/-! ## Identical lines -/

/-- The entries are equal in every field. -/
def SameFields (a b : JsonObject) : Prop := ∀ key, a.get? key = b.get? key

theorem SameFields.logEntryKey_eq {a b : JsonObject} (h : SameFields a b) :
    logEntryKey a = logEntryKey b := by
  unfold logEntryKey entryText
  rw [h, h, h, h]

/-- Of two entries with different keys those that have one key are one. -/
theorem sameFields_of_pair {a b e e' : JsonObject} (hne : logEntryKey a ≠ logEntryKey b)
    (he : e = a ∨ e = b) (he' : e' = a ∨ e' = b) (hkey : logEntryKey e = logEntryKey e') :
    SameFields e e' := by
  obtain rfl | rfl := he <;> obtain rfl | rfl := he'
  · exact fun _ => rfl
  · exact absurd hkey hne
  · exact absurd hkey.symm hne
  · exact fun _ => rfl

/-- Every line that is not cut off is in the result, equal in every field. -/
def KeepsLines : Prop :=
  ∀ e, WithinLimit mem db limit e → ∃ r ∈ mergeLogs mem db limit, SameFields r e

/-- **Only identical lines are dropped** if and only if no two lines up to the limit agree on
timestamp, message, instance and logger and differ in a field. -/
theorem merge_keeps_lines_iff (hlimit : 1 ≤ limit) :
    KeepsLines mem db limit ↔ ∀ e e', WithinLimit mem db limit e → WithinLimit mem db limit e' →
      logEntryKey e = logEntryKey e' → SameFields e e' := by
  have hempty : ([] : List (String × String × String × String)).length < limit := hlimit
  have hnodup :
      ([] ++ (takeDistinct logEntryKey limit (newestFirst (mem ++ db)) []).map logEntryKey).Nodup :=
    takeDistinct_nodup logEntryKey (newestFirst (mem ++ db)) List.nodup_nil
  rw [List.nil_append] at hnodup
  constructor
  · intro h e e' he he' hkey
    obtain ⟨r, hr, hre⟩ := h e he
    obtain ⟨r', hr', hre'⟩ := h e' he'
    -- the two results have one key, so they are one
    have heq : r = r' := by
      refine List.inj_on_of_nodup_map hnodup hr hr' ?_
      rw [hre.logEntryKey_eq, hkey, hre'.logEntryKey_eq]
    intro key
    rw [← hre key, heq, hre' key]
  · intro h e he
    obtain hnone | ⟨r, hr, hkey⟩ := he.kept logEntryKey List.nodup_nil
    · cases hnone
    · exact ⟨r, hr, h r e (reaches_of_mem logEntryKey hempty hr) he hkey⟩

end Merge

/-! ## Two requests at one instant -/

/-- A line of `_log_request` in JSON format, logged at `now` by instance 1. -/
def requestLine (now : Int) (requestId path : String) : JsonObject :=
  UrlShortener.logRecordToPayload now
    { levelname := "INFO", name := "app.middleware", message := "http_request",
      extra := [("request_id", .str requestId), ("method", .str "GET"), ("path", .str path)] } "1"

/-- Two requests a second apart, of which the second is in the table as well. -/
def linesApart : List JsonObject := [requestLine 0 "a" "/urls", requestLine 1000000 "b" "/users"]

theorem mem_linesApart {e : JsonObject}
    (he : e ∈ newestFirst (linesApart ++ [requestLine 1000000 "b" "/users"])) :
    e = requestLine 0 "a" "/urls" ∨ e = requestLine 1000000 "b" "/users" := by
  obtain hmem | hdb := mem_newestFirst.1 he
  · obtain ha | hb := List.mem_cons.1 hmem
    · exact .inl ha
    · exact .inr (List.mem_singleton.1 hb)
  · exact .inr (List.mem_singleton.1 hdb)

/-- Both are shown. -/
theorem merge_keeps_lines_sample :
    KeepsLines linesApart [requestLine 1000000 "b" "/users"] 10 ∧
      WithinLimit linesApart [requestLine 1000000 "b" "/users"] 10 (requestLine 0 "a" "/urls") ∧
      logEntryKey (requestLine 0 "a" "/urls") ≠ logEntryKey (requestLine 1000000 "b" "/users") := by
  have hkeys :
      logEntryKey (requestLine 0 "a" "/urls") ≠ logEntryKey (requestLine 1000000 "b" "/users") := by
    decide +kernel
  refine ⟨(merge_keeps_lines_iff _ _ 10 (by decide)).2 fun e e' he he' => ?_, ?_, hkeys⟩
  · exact sameFields_of_pair hkeys (mem_linesApart (he.mem logEntryKey))
      (mem_linesApart (he'.mem logEntryKey))
  · exact reaches_of_length logEntryKey (mem_newestFirst.2 (.inl List.mem_cons_self))
      (by rw [newestFirst, List.length_insertionSort]; decide)

/-- Of two requests at one instant only the first is shown. -/
theorem same_instant_hidden :
    ¬ KeepsLines [requestLine 0 "a" "/urls", requestLine 0 "b" "/users"] [] 10 := by
  have hkey : logEntryKey (requestLine 0 "a" "/urls") = logEntryKey (requestLine 0 "b" "/users") :=
    rfl
  have hsorted : newestFirst ([requestLine 0 "a" "/urls", requestLine 0 "b" "/users"] ++ []) =
      [requestLine 0 "a" "/urls", requestLine 0 "b" "/users"] := by
    unfold newestFirst
    refine List.Pairwise.insertionSort_eq ?_
    simp only [List.append_nil, List.pairwise_cons, List.mem_singleton, forall_eq, List.not_mem_nil,
      IsEmpty.forall_iff, implies_true, List.Pairwise.nil, and_true]
    exact le_of_eq rfl
  have hmerged : mergeLogs [requestLine 0 "a" "/urls", requestLine 0 "b" "/users"] [] 10 =
      [requestLine 0 "a" "/urls"] := by
    unfold mergeLogs
    rw [hsorted, takeDistinct, if_neg List.not_mem_nil, if_neg (by decide), takeDistinct, if_pos ?_,
      takeDistinct]
    rw [← hkey]
    exact List.mem_cons_self
  intro h
  obtain ⟨r, hr, hfields⟩ := h (requestLine 0 "b" "/users")
    ⟨[requestLine 0 "a" "/urls"], [], hsorted, lt_of_le_of_lt (Finset.card_union_le _ _)
      (lt_of_le_of_lt (Nat.add_le_add (List.toFinset_card_le _) (List.toFinset_card_le _))
        (by decide))⟩
  rw [hmerged, List.mem_singleton] at hr
  have hid := hfields "request_id"
  rw [hr] at hid
  simp [requestLine, UrlShortener.logRecordToPayload, JsonObject.get?] at hid

end PeHackathon.Dashboard
