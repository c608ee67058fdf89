import Mathlib.Algebra.BigOperators.Group.List.Basic
import Mathlib.Data.List.DropRight
import Mathlib.Data.List.Induction
import PeHackathon.Dashboard.K6Live

/-!
# The error rate and the order of the points

The reader computes the error rate only at a point that counts errors, from the requests it has
counted by then. What it shows at the end is the rate of all errors over the requests before the
last such point (`readPoints_rate`). It is the right one exactly if there are no errors, or no
requests after that point, or so many errors that both rates are capped (`error_rate_iff`); past
`2 ^ 51` requests two rates can also be rounded alike.
-/

namespace PeHackathon.Dashboard

open Lib

/-- A data point in the output of k6. -/
structure K6Point where
  metric : Json
  value : Json

namespace K6Point

def isRequest (p : K6Point) : Bool :=
  match p.metric with
  | .str s => s == "http_reqs"
  | _ => false

def isError (p : K6Point) : Bool :=
  match p.metric with
  | .str s => s == "load_test_error_checks"
  | _ => false

/-- `int(value) if isinstance(value, (int, float)) else 0`. -/
def errors (p : K6Point) : Int :=
  (if jsonIsNumber p.value then (pyInt p.value).toOption else some 0).getD 0

end K6Point

/-- The loop of `_read_output` over points, and whether one of them raised. -/
def readPoints (n : K6Numbers) : List K6Point → K6Shown → K6Shown × Bool
  | [], s => (s, false)
  | p :: points, s =>
    match s.point n p.metric p.value with
    | (s, true) => (s, true)
    | (s, false) => readPoints n points s

def requestsIn (points : List K6Point) : Int := points.countP (·.isRequest)

def errorsIn (points : List K6Point) : Int := ((points.filter (·.isError)).map (·.errors)).sum

/-- The points up to the last one that counts errors. -/
def untilLastError (points : List K6Point) : List K6Point := points.rdropWhile fun p => !p.isError

/-- `min(1.0, errors / requests)`, and 0 when there are no requests; `none` if it raises. -/
def rateOf (errors requests : Int) : Option ℚ :=
  if 0 < requests then (pyTrueDiv errors requests).map pyMinOne else some 0

section Point

variable {n : K6Numbers} {s : K6Shown} {p : K6Point} {value : Json}

theorem K6Point.isRequest_iff : p.isRequest = true ↔ p.metric = .str "http_reqs" := by
  unfold isRequest
  split
  · rename_i name h
    simp [h]
  · rename_i h
    simpa using h "http_reqs"

theorem K6Point.isError_iff : p.isError = true ↔ p.metric = .str "load_test_error_checks" := by
  unfold isError
  split
  · rename_i name h
    simp [h]
  · rename_i h
    simpa using h "load_test_error_checks"

/-- Between two sections the errors and the requests are what they are, and the rate may be
behind. -/
structure CountsAs (before next : K6Metrics) (requests errors : Int) (rated : Prop) : Prop where
  requests : next.requests = before.requests + requests
  errors : next.errors = before.errors + errors
  rate : rated → rateOf next.errors next.requests = some next.errorRate
  stale : ¬ rated → next.errorRate = before.errorRate

theorem countErrors_counts (h : (s.countErrors value).2 = false) :
    CountsAs s.metrics (s.countErrors value).1.metrics 0
      ((if jsonIsNumber value then (pyInt value).toOption else some 0).getD 0)
        (0 < s.metrics.requests) := by
  unfold K6Shown.countErrors at h ⊢
  cases hadded : (if jsonIsNumber value then (pyInt value).toOption else some 0) with
  | none => simp [hadded] at h
  | some added =>
    simp only [hadded] at h ⊢
    split at h
    · rename_i hpos
      cases hquotient : pyTrueDiv (s.metrics.errors + added) s.metrics.requests with
      | none => simp [hquotient] at h
      | some quotient =>
        rw [if_pos hpos]
        refine ⟨(Int.add_zero _).symm, rfl, fun _ => ?_, fun hn => absurd hpos hn⟩
        unfold rateOf
        rw [if_pos hpos]
        exact congrArg (Option.map pyMinOne) hquotient
    · rename_i hzero
      rw [if_neg hzero]
      exact ⟨(Int.add_zero _).symm, rfl, fun hpos => absurd hpos hzero, fun _ => rfl⟩

theorem CountsAs.of_same {before next : K6Metrics} (hrequests : next.requests = before.requests)
    (herrors : next.errors = before.errors) (hrate : next.errorRate = before.errorRate) :
    CountsAs before next 0 0 False :=
  ⟨by rw [hrequests, Int.add_zero], by rw [herrors, Int.add_zero], False.elim, fun _ => hrate⟩

theorem countDuration_counts :
    CountsAs s.metrics (s.countDuration n value).1.metrics 0 0 False := by
  unfold K6Shown.countDuration
  dsimp only
  split
  · exact .of_same rfl rfl rfl
  · split
    · split <;> exact .of_same rfl rfl rfl
    · exact .of_same rfl rfl rfl

theorem countVus_counts : CountsAs s.metrics (s.countVus value).1.metrics 0 0 False := by
  unfold K6Shown.countVus
  split <;> exact .of_same rfl rfl rfl

/-- What a point does to the counters and the rate. -/
theorem point_counts (h : (s.point n p.metric p.value).2 = false) :
    CountsAs s.metrics (s.point n p.metric p.value).1.metrics (if p.isRequest then 1 else 0)
      (if p.isError then p.errors else 0) (p.isError = true ∧ 0 < s.metrics.requests) := by
  obtain ⟨metric, value⟩ := p
  by_cases hrequest : metric = .str "http_reqs"
  · subst hrequest
    exact ⟨rfl, (Int.add_zero _).symm, fun hrated => absurd hrated.1 Bool.false_ne_true,
      fun _ => rfl⟩
  by_cases herror : metric = .str "load_test_error_checks"
  · subst herror
    obtain ⟨hrequests, herrors, hrate, hstale⟩ := countErrors_counts h
    exact ⟨hrequests, herrors, fun h => hrate h.2, fun h => hstale fun hpos => h ⟨rfl, hpos⟩⟩
  have hnoRequest : (⟨metric, value⟩ : K6Point).isRequest = false := by
    rw [← Bool.not_eq_true, K6Point.isRequest_iff]
    exact hrequest
  have hnoError : (⟨metric, value⟩ : K6Point).isError = false := by
    rw [← Bool.not_eq_true, K6Point.isError_iff]
    exact herror
  have hcounts : CountsAs s.metrics (s.point n metric value).1.metrics 0 0 False := by
    unfold K6Shown.point
    split
    · exact absurd rfl hrequest
    · exact absurd rfl herror
    · exact countDuration_counts
    · exact countVus_counts
    · exact .of_same rfl rfl rfl
  simpa [hnoRequest, hnoError] using hcounts

end Point

section Read

variable {n : K6Numbers} {s : K6Shown} {p : K6Point} {points points' : List K6Point}

theorem readPoints_snoc (h : (readPoints n (points ++ [p]) s).2 = false) :
    (readPoints n points s).2 = false ∧
      ((readPoints n points s).1.point n p.metric p.value).2 = false ∧
      (readPoints n (points ++ [p]) s).1 =
        ((readPoints n points s).1.point n p.metric p.value).1 := by
  induction points generalizing s with
  | nil =>
    cases hpoint : s.point n p.metric p.value with
    | mk s' raised =>
      simp only [List.nil_append, readPoints, hpoint] at h ⊢
      cases raised with
      | true => cases h
      | false => exact ⟨trivial, rfl, rfl⟩
  | cons q points ih =>
    cases hpoint : s.point n q.metric q.value with
    | mk s' raised =>
      simp only [List.cons_append, readPoints, hpoint] at h ⊢
      cases raised with
      | true => cases h
      | false => exact ih h

theorem requestsIn_snoc :
    requestsIn (points ++ [p]) = requestsIn points + if p.isRequest then 1 else 0 := by
  unfold requestsIn
  rw [List.countP_append, List.countP_singleton]
  split <;> simp

theorem errorsIn_snoc :
    errorsIn (points ++ [p]) = errorsIn points + if p.isError then p.errors else 0 := by
  unfold errorsIn
  rw [List.filter_append, List.map_append, List.sum_append]
  split <;> simp [*]

theorem untilLastError_snoc :
    untilLastError (points ++ [p]) = if p.isError then points ++ [p]
      else untilLastError points := by
  unfold untilLastError
  rw [List.rdropWhile_concat]
  cases p.isError <;> rfl

theorem requestsIn_untilLastError : requestsIn (untilLastError points) ≤ requestsIn points :=
  Int.ofNat_le.2 (List.rdropWhile_prefix _ _).sublist.countP_le

/-- The counters are those of all the points, the rate is that of the requests before the last
errors. -/
theorem readPoints_rate (stats : K6Stats) (h : (readPoints n points (.of stats)).2 = false) :
    let shown := (readPoints n points (.of stats)).1
    shown.metrics.requests = requestsIn points ∧ shown.metrics.errors = errorsIn points ∧
      some shown.metrics.errorRate = rateOf (errorsIn points)
        (requestsIn (untilLastError points)) := by
  induction points using List.reverseRecOn with
  | nil => exact ⟨rfl, rfl, rfl⟩
  | append_singleton points p ih =>
    obtain ⟨hread, hpoint, hshown⟩ := readPoints_snoc h
    obtain ⟨hrequests, herrors, hrate⟩ := ih hread
    have hcounts := point_counts hpoint
    rw [hshown, requestsIn_snoc, errorsIn_snoc, untilLastError_snoc]
    have hrequests' := hcounts.requests
    have herrors' := hcounts.errors
    rw [hrequests] at hrequests'
    rw [herrors] at herrors'
    refine ⟨hrequests', herrors', ?_⟩
    by_cases herror : p.isError = true
    · have hno : p.isRequest = false := by
        rw [← Bool.not_eq_true, K6Point.isRequest_iff, K6Point.isError_iff.1 herror]
        simp
      rw [if_pos herror, if_pos herror, requestsIn_snoc, hno]
      rw [if_pos herror] at herrors'
      rw [hno] at hrequests'
      simp only [Bool.false_eq_true, if_false, Int.add_zero] at hrequests' ⊢
      by_cases hpos : 0 < requestsIn points
      · rw [← hcounts.rate ⟨herror, hrequests ▸ hpos⟩, herrors', hrequests']
      · have hle : requestsIn (untilLastError points) ≤ requestsIn points :=
          requestsIn_untilLastError
        rw [hcounts.stale fun h => hpos (hrequests ▸ h.2), hrate, rateOf, rateOf,
          if_neg hpos, if_neg (by omega)]
    · rw [if_neg herror, if_neg herror, Int.add_zero, hcounts.stale fun h => herror h.1]
      exact hrate

theorem requestsIn_perm (h : points.Perm points') : requestsIn points = requestsIn points' :=
  congrArg Nat.cast (h.countP_eq _)

theorem errorsIn_perm (h : points.Perm points') : errorsIn points = errorsIn points' :=
  ((h.filter _).map _).sum_eq

end Read

/-- The rate shown is that of the counters shown. -/
def K6Shown.RateCurrent (s : K6Shown) : Prop :=
  rateOf s.metrics.errors s.metrics.requests = some s.metrics.errorRate

/-- The requests after the last point that counts errors make no difference: there are no errors, or
no such requests; or both rates are capped; or they are rounded alike, which takes more requests
than 51 bits hold. -/
def RateSettled (points : List K6Point) : Prop :=
  errorsIn points = 0 ∨ requestsIn (untilLastError points) = requestsIn points ∨
    (0 < requestsIn (untilLastError points) ∧ requestsIn points ≤ errorsIn points) ∨
    (2 ^ 51 < requestsIn points ∧
      rateOf (errorsIn points) (requestsIn (untilLastError points)) = rateOf (errorsIn points)
        (requestsIn points))

section Rates

variable {errors before requests : Int}

theorem rateOf_zero : rateOf 0 requests = some 0 := by
  unfold rateOf
  split
  · rename_i hpos
    rw [pyTrueDiv_zero hpos]
    exact congrArg some (pyMinOne_of_lt one_pos)
  · rfl

theorem rateOf_noRequests : rateOf errors 0 = some 0 := rfl

theorem rateOf_pos (hpos : 0 < requests) :
    rateOf errors requests = (pyTrueDiv errors requests).map pyMinOne :=
  if_pos hpos

/-- A rate that does not raise does not do so over more requests. -/
theorem rateOf_more (hpos : 0 < before) (hle : before ≤ requests)
    (h : (rateOf errors before).isSome = true) :
    rateOf errors before = some (pyMinOne (Binary64.round ((errors : ℚ) / before))) ∧
      rateOf errors requests = some (pyMinOne (Binary64.round ((errors : ℚ) / requests))) := by
  rw [rateOf_pos hpos, Option.isSome_map] at h
  rw [rateOf_pos hpos, rateOf_pos (hpos.trans_le hle), pyTrueDiv_isSome hpos hle h,
    pyTrueDiv_isSome hpos le_rfl h]
  exact ⟨rfl, rfl⟩

/-- Capped rates are capped over more requests, as long as these are not more than the errors. -/
theorem rateOf_capped (hpos : 0 < before) (hle : before ≤ requests) (hcap : requests ≤ errors)
    (h : (rateOf errors before).isSome = true) : rateOf errors before = rateOf errors requests := by
  have hone : ∀ {r : Int}, 0 < r → r ≤ errors → 1 ≤ Binary64.round ((errors : ℚ) / r) := by
    intro r hr hre
    have hrQ : (0 : ℚ) < r := by exact_mod_cast hr
    exact Binary64.one_le_round ((one_le_div₀ hrQ).2 (by exact_mod_cast hre))
  obtain ⟨hbefore, hrequests⟩ := rateOf_more hpos hle h
  rw [hbefore, hrequests, pyMinOne_of_le (hone hpos (hle.trans hcap)),
    pyMinOne_of_le (hone (hpos.trans_le hle) hcap)]

/-- Over no requests the rate is 0, and over some it is not. -/
theorem rateOf_ne_zero (herrors : errors ≠ 0) (hpos : 0 < requests) (hmany : requests ≤ 2 ^ 51) :
    rateOf errors requests ≠ some 0 := by
  intro h
  rw [rateOf_pos hpos, Option.map_eq_some_iff] at h
  obtain ⟨quotient, hquotient, hzero⟩ := h
  rw [pyTrueDiv_isSome hpos le_rfl (by rw [hquotient]; rfl)] at hquotient
  obtain rfl := Option.some.inj hquotient
  exact pyMinOne_ne_zero (Binary64.round_ne_zero (quotient_normal herrors hpos hmany)) hzero

end Rates

/-- **The error rate is that of the counters** exactly if the requests after the last point that
counts errors make no difference to it. -/
theorem error_rate_iff (n : K6Numbers) (stats : K6Stats) (points : List K6Point)
    (h : (readPoints n points (.of stats)).2 = false) :
    (readPoints n points (.of stats)).1.RateCurrent ↔ RateSettled points := by
  obtain ⟨hrequests, herrors, hrate⟩ := readPoints_rate stats h
  have hle : requestsIn (untilLastError points) ≤ requestsIn points := requestsIn_untilLastError
  have hnonneg : 0 ≤ requestsIn (untilLastError points) := Int.natCast_nonneg _
  have hsome : (rateOf (errorsIn points) (requestsIn (untilLastError points))).isSome = true := by
    rw [← hrate]
    rfl
  unfold K6Shown.RateCurrent RateSettled
  rw [hrequests, herrors, hrate]
  constructor
  · intro heq
    by_cases hzero : errorsIn points = 0
    · exact .inl hzero
    by_cases hsame : requestsIn (untilLastError points) = requestsIn points
    · exact .inr (.inl hsame)
    by_cases hmany : 2 ^ 51 < requestsIn points
    · exact .inr (.inr (.inr ⟨hmany, heq.symm⟩))
    obtain hnone | hpos := hnonneg.eq_or_lt
    · -- the rate was never computed
      rw [← hnone, rateOf_noRequests] at heq
      exact absurd heq (rateOf_ne_zero hzero (by omega) (not_lt.1 hmany))
    · obtain ⟨hbefore, hall⟩ := rateOf_more hpos hle hsome
      rw [hbefore, hall, Option.some.injEq, eq_comm,
        pyMinOne_round_eq_iff hzero hpos (lt_of_le_of_ne hle hsame) (not_lt.1 hmany)] at heq
      exact .inr (.inr (.inl ⟨hpos, heq⟩))
  · rintro (hzero | hsame | ⟨hpos, hcap⟩ | ⟨-, heq⟩)
    · rw [hzero, rateOf_zero, rateOf_zero]
    · rw [hsame]
    · exact (rateOf_capped hpos hle hcap hsome).symm
    · exact heq.symm

/-- Then it does not depend on the order of the points. -/
theorem error_rate_of_perm {n : K6Numbers} {stats : K6Stats} {points points' : List K6Point}
    (hperm : points.Perm points') (h : (readPoints n points (.of stats)).2 = false)
    (h' : (readPoints n points' (.of stats)).2 = false)
    (hcurrent : (readPoints n points (.of stats)).1.RateCurrent)
    (hcurrent' : (readPoints n points' (.of stats)).1.RateCurrent) :
    (readPoints n points (.of stats)).1.metrics.errorRate =
      (readPoints n points' (.of stats)).1.metrics.errorRate := by
  obtain ⟨hrequests, herrors, -⟩ := readPoints_rate stats h
  obtain ⟨hrequests', herrors', -⟩ := readPoints_rate stats h'
  unfold K6Shown.RateCurrent at hcurrent hcurrent'
  rw [hrequests, herrors, errorsIn_perm hperm, requestsIn_perm hperm] at hcurrent
  rw [hrequests', herrors'] at hcurrent'
  exact Option.some.inj (hcurrent.symm.trans hcurrent')

/-! ## Requests that fail -/

/-- Numbers as they come. -/
def plainNumbers : K6Numbers where
  round x _ := x
  roundRate x _ := x
  seconds dt := .int (dt / 1000000)
  mean _ := none
  p95 _ := none

def oneRequest : K6Point := ⟨.str "http_reqs", .int 1⟩

/-- As many errors at once. -/
def errorPoint (errors : Int) : K6Point := ⟨.str "load_test_error_checks", .int errors⟩

/-- Three errors over two requests, and a third request after them: both rates are capped. -/
theorem error_rate_sample :
    (readPoints plainNumbers [oneRequest, oneRequest, errorPoint 3, oneRequest]
      (.of .new)).1.RateCurrent ∧
      (readPoints plainNumbers [oneRequest, oneRequest, errorPoint 3, oneRequest]
        (.of .new)).1.metrics.errorRate = 1 := by
  have hread :
      (readPoints plainNumbers [oneRequest, oneRequest, errorPoint 3, oneRequest] (.of .new)).2 =
        false := by
    decide +kernel
  have hsettled : RateSettled [oneRequest, oneRequest, errorPoint 3, oneRequest] :=
    .inr (.inr (.inl (by decide +kernel)))
  exact ⟨(error_rate_iff plainNumbers .new _ hread).2 hsettled, by decide +kernel⟩

/-- The error arrives before its request: the rate shown is 0. -/
theorem error_rate_behind :
    ¬ (readPoints plainNumbers [errorPoint 1, oneRequest] (.of .new)).1.RateCurrent := by
  intro h
  exact absurd h (rateOf_ne_zero one_ne_zero one_pos (by decide +kernel))

end PeHackathon.Dashboard
