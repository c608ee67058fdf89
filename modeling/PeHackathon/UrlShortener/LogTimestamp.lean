import PeHackathon.Python.Datetime
import PeHackathon.Python.Replace

/-!
# The timestamps of the log lines

`log_record_to_payload` (`kafka_logging.py`): the time of a line is written as a text, and the
dashboard sorts by that text. `timestamp_lt_iff`: the texts are in the order of the times, apart
from a time without a fraction of a second, whose text comes after those of the same second that
have one.
-/

namespace PeHackathon.UrlShortener

open Lib

/-- A `LogRecord`: `extra` are the attributes that were set on it. -/
structure LogRecord where
  levelname : String
  name : String
  message : String
  extra : JsonObject

/-- `datetime.now(UTC).isoformat().replace("+00:00", "Z")` at time `now`. -/
def timestampText (now : Int) : String := pyReplace (utcDateTime now).isoformat "+00:00" "Z"

/-- `log_record_to_payload`: structured log dict. -/
def logRecordToPayload (now : Int) (record : LogRecord) (instanceId : String) : JsonObject :=
  [("timestamp", .str (timestampText now)), ("level", .str record.levelname),
    ("logger", .str record.name), ("message", .str record.message),
    ("instance_id", .str instanceId)] ++
    ["request_id", "trace_id", "method", "path", "status_code", "duration_ms"].filterMap
      fun key => (record.extra.get? key).map fun v => (key, v)

/-! ## The text -/

/-- A text without the first character of `old` stays, up to an `old` at its end. -/
theorem pyReplaceFrom_end {c : Char} {old new s : List Char} (hs : c ∉ s) :
    pyReplaceFrom (c :: old) new 0 (s ++ c :: old) = s ++ new := by
  induction s with
  | nil =>
    have hall := @pyReplaceFrom_append (c :: old) new [] (List.cons_ne_nil c old)
    rw [List.append_nil] at hall
    exact hall.trans (List.append_nil new)
  | cons d s ih =>
    rw [List.mem_cons, not_or] at hs
    have hfirst : (c :: old).isPrefixOf (d :: (s ++ c :: old)) = false := by
      simp [List.isPrefixOf, hs.1]
    rw [List.cons_append, pyReplaceFrom, hfirst, if_neg Bool.false_ne_true, ih hs.2,
      List.cons_append]

theorem digitChar_ne_plus {n : Nat} (h : n < 10) : '+' ≠ Nat.digitChar n := by
  revert n
  decide

theorem plus_not_mem_fixedDigits (k n : Nat) : '+' ∉ fixedDigits k n := by
  induction k generalizing n with
  | zero => exact List.not_mem_nil
  | succ k ih =>
    rw [fixedDigits, List.mem_append, List.mem_singleton, not_or]
    exact ⟨ih (n / 10), digitChar_ne_plus (Nat.mod_lt n (by decide))⟩

theorem timestampText_toList (now : Int) : (timestampText now).toList =
    (utcDateTime now).baseText ++ ((utcDateTime now).fractionText ++ ['Z']) := by
  have hplus : '+' ∉ (utcDateTime now).baseText ++ (utcDateTime now).fractionText := by
    unfold PeHackathon.DateTime.baseText PeHackathon.DateTime.fractionText
    split <;> simp [plus_not_mem_fixedDigits]
  have htext : (utcDateTime now).isoformat.toList =
      ((utcDateTime now).baseText ++ (utcDateTime now).fractionText) ++ '+' :: "00:00".toList := by
    rw [PeHackathon.DateTime.isoformat, String.toList_ofList]
    rfl
  rw [timestampText, pyReplace, htext, String.toList_ofList, ← List.append_assoc]
  exact pyReplaceFrom_end hplus

/-! ## Order -/

/-- The time has no fraction of a second. -/
def WholeSecond (t : Int) : Prop := t % 1000000 = 0

instance (t : Int) : Decidable (WholeSecond t) := inferInstanceAs (Decidable (_ = _))

/-- The second a time is in. -/
def secondOf (t : Int) : Int := t / 1000000

section Order

variable {t t' : Int}

theorem microsecond_eq (h : InYears t) : ((utcDateTime t).microsecond : Int) = t % 1000000 := by
  change (((t - minTime).toNat % 86400000000 % 1000000 : Nat) : Int) = t % 1000000
  unfold InYears minTime at *
  omega

/-- Up to the second the text is that of the second. -/
theorem baseText_congr (h : InYears t) (h' : InYears t') (hsecond : secondOf t = secondOf t') :
    (utcDateTime t).baseText = (utcDateTime t').baseText := by
  have hdays : (sinceYearOne t).1 = (sinceYearOne t').1 := by
    unfold sinceYearOne secondOf InYears minTime at *
    dsimp only
    omega
  have hus : (sinceYearOne t).2 / 1000000 = (sinceYearOne t').2 / 1000000 := by
    unfold sinceYearOne secondOf InYears minTime at *
    dsimp only
    omega
  have hhour : (sinceYearOne t).2 / 3600000000 = (sinceYearOne t').2 / 3600000000 := by omega
  have hminute : (sinceYearOne t).2 / 60000000 % 60 = (sinceYearOne t').2 / 60000000 % 60 := by
    omega
  simp only [PeHackathon.DateTime.baseText, utcDateTime, hdays, hus, hhour, hminute]

theorem length_baseText (d : PeHackathon.DateTime) : d.baseText.length = 19 := by
  simp [PeHackathon.DateTime.baseText]

/-- In one second, a text without a fraction comes after one with. -/
theorem fraction_lt_iff {d d' : PeHackathon.DateTime} (hd' : d'.microsecond < 10 ^ 6)
    (h : d.microsecond < d'.microsecond) :
    (d.fractionText ++ ['Z'] < d'.fractionText ++ ['Z'] ↔ d.microsecond ≠ 0) ∧
      (d.microsecond = 0 → d'.fractionText ++ ['Z'] < d.fractionText ++ ['Z']) := by
  have hfraction : d'.fractionText = '.' :: fixedDigits 6 d'.microsecond := if_neg (by omega)
  have hpoint : ('.' : Char) < 'Z' := by decide
  by_cases hzero : d.microsecond = 0
  · have hnone : d.fractionText = [] := if_pos hzero
    have hafter : d'.fractionText ++ ['Z'] < d.fractionText ++ ['Z'] := by
      rw [hfraction, hnone]
      exact List.cons_lt_cons_iff.2 (.inl hpoint)
    exact ⟨⟨fun hlt => absurd hafter (lt_asymm hlt), fun hne => absurd hzero hne⟩, fun _ => hafter⟩
  · have hsome : d.fractionText = '.' :: fixedDigits 6 d.microsecond := if_neg hzero
    refine ⟨⟨fun _ => hzero, fun _ => ?_⟩, fun h0 => absurd h0 hzero⟩
    rw [hfraction, hsome, List.cons_append, List.cons_append]
    refine List.cons_lt_cons_iff.2 (.inr ⟨rfl, append_lt_of_lt ?_ (fixedDigits_lt h hd') _ _⟩)
    rw [length_fixedDigits, length_fixedDigits]

/-- **The texts of two times are in order** exactly if the first has a fraction of a second or the
second is in a later second. -/
theorem timestamp_lt_iff (record record' : LogRecord) (instanceId instanceId' : String)
    (h : InYears t) (h' : InYears t') (hlt : t < t') :
    ∃ s s', (logRecordToPayload t record instanceId).getNone "timestamp" = .str s ∧
      (logRecordToPayload t' record' instanceId').getNone "timestamp" = .str s' ∧
      (s < s' ↔ ¬ (WholeSecond t ∧ secondOf t = secondOf t')) := by
  refine ⟨timestampText t, timestampText t', rfl, rfl, ?_⟩
  rw [String.lt_iff_toList_lt, timestampText_toList, timestampText_toList]
  have hle : secondOf t ≤ secondOf t' := Int.ediv_le_ediv (by decide) hlt.le
  rcases lt_or_eq_of_le hle with hsecond | hsecond
  · have hbase :=
      PeHackathon.DateTime.baseText_lt (utcDateTime_printable h') (utcDateTime_earlier h h' hsecond)
    refine iff_of_true (append_lt_of_lt ?_ hbase _ _) fun hsame => hsecond.ne hsame.2
    rw [length_baseText, length_baseText]
  · have hus := microsecond_eq h
    have hus' := microsecond_eq h'
    have hmicro : (utcDateTime t).microsecond < (utcDateTime t').microsecond := by
      unfold secondOf at hsecond
      omega
    have hbound : (utcDateTime t').microsecond < 10 ^ 6 := by omega
    obtain ⟨hiff, hafter⟩ := fraction_lt_iff hbound hmicro
    have hwhole : WholeSecond t ↔ (utcDateTime t).microsecond = 0 := by
      unfold WholeSecond
      omega
    rw [baseText_congr h h' hsecond, hwhole]
    by_cases hzero : (utcDateTime t).microsecond = 0
    · refine iff_of_false (lt_asymm (append_lt_left _ (hafter hzero))) ?_
      exact not_not.2 ⟨hzero, hsecond⟩
    · exact iff_of_true (append_lt_left _ (hiff.2 hzero)) fun hsame => hzero hsame.1

end Order

/-! ## Samples -/

/-- A line of the request log. -/
def sampleRecord : LogRecord := ⟨"INFO", "app.request", "GET /abc", []⟩

/-- Two times in one second, both with a fraction. -/
theorem timestamp_lt_sample : InYears 1767258000000001 ∧ InYears 1767258000000002 ∧
    (1767258000000001 : Int) < 1767258000000002 ∧
    ∃ s s', (logRecordToPayload 1767258000000001 sampleRecord "1").getNone "timestamp" = .str s ∧
      (logRecordToPayload 1767258000000002 sampleRecord "1").getNone "timestamp" = .str s' ∧
      (s < s' ↔ ¬ (WholeSecond 1767258000000001 ∧
        secondOf 1767258000000001 = secondOf 1767258000000002)) :=
  ⟨by decide, by decide, by decide,
    timestamp_lt_iff sampleRecord sampleRecord "1" "1" (by decide) (by decide) (by decide)⟩

/-- **The texts are not in order**: nine o'clock comes after one microsecond past nine. -/
theorem timestamp_not_lt :
    (logRecordToPayload 1767258000000000 sampleRecord "1").getNone "timestamp" =
        .str "2026-01-01T09:00:00Z" ∧
      (logRecordToPayload 1767258000000001 sampleRecord "1").getNone "timestamp" =
        .str "2026-01-01T09:00:00.000001Z" ∧
      ¬ "2026-01-01T09:00:00Z" < "2026-01-01T09:00:00.000001Z" := by
  refine ⟨?_, ?_, by decide +kernel⟩
  · rfl
  · rfl

end PeHackathon.UrlShortener
