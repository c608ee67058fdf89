import PeHackathon.Lib.Tiers
import PeHackathon.UrlShortener.RateLimitConfig

/-!
# More load, lower limit

For an enabled configuration whose tiers are objects with two integers, `get_current_rate_limit`
answers the value of `Lib.tierValue` (`currentLimit_eq`). `more_load_iff`: the limit does not rise
with the number of users, and is the most restrictive of the list beyond its bounds, just when the
limits fall along the tiers that some number of users selects, and the last tier has the lowest.
-/

namespace PeHackathon.UrlShortener

open Lib

/-- The object is a tier with these integers. -/
structure IntTier (t : JsonObject) (tier : Int × Int) : Prop where
  maxUsers : JsonObject.get? t "max_users" = some (.int tier.1)
  rateLimit : JsonObject.get? t "rate_limit" = some (.int tier.2)

/-- The configuration is enabled, and has these tiers. -/
structure EnabledTiers (config : JsonObject) (tiers : List (Int × Int)) : Prop where
  enabled : pyTruthy ((JsonObject.get? config "enabled").getD (.bool true)) = true
  nonempty : tiers ≠ []
  tiers : ∃ objects, JsonObject.get? config "tiers" = some (.arr (objects.map .obj)) ∧
    List.Forall₂ IntTier objects tiers

/-- The limit for a count of the users. -/
def currentLimit (d : String) (config : JsonObject) (users : ActiveUsers) : Option Json :=
  (getCurrentRateLimit d (.obj config) users).map (·.rateLimit)

/-- More users never have a higher limit, and beyond the last bound it is the most restrictive of
the list. -/
structure LimitFalls (d : String) (config : JsonObject) (tiers : List (Int × Int)) : Prop where
  antitone : ∀ users users' : ActiveUsers, users.effectiveUsers ≤ users'.effectiveUsers →
    ∃ r r' : Int, currentLimit d config users = some (.int r) ∧ currentLimit d config users' =
      some (.int r') ∧ r' ≤ r
  beyond : ∀ users : ActiveUsers, (∀ t ∈ tiers, t.1 < users.effectiveUsers) →
    ∃ r : Int, currentLimit d config users = some (.int r) ∧ ∀ t ∈ tiers, r ≤ t.2

section

variable {d : String} {config : JsonObject} {objects : List JsonObject} {tiers : List (Int × Int)}

theorem selectTier_eq (n i : Nat) (h : List.Forall₂ IntTier objects tiers) :
    (selectTier n i (objects.map .obj)).map Prod.fst =
      (tierValue (n : Int) tiers).map Json.int := by
  induction h generalizing i with
  | nil => rfl
  | @cons t tier objects tiers ht hrest ih =>
    rw [List.map_cons]
    unfold selectTier
    dsimp only
    rw [ht.maxUsers, ht.rateLimit]
    dsimp only [Option.getD_some, pyIntLe]
    cases hrest with
    | nil =>
      by_cases hle : (n : Int) ≤ tier.1
      · rw [decide_eq_true hle]
        rfl
      · rw [decide_eq_false hle]
        rfl
    | cons ht' hrest' =>
      by_cases hle : (n : Int) ≤ tier.1
      · rw [decide_eq_true hle, tierValue, if_pos hle]
        rfl
      · rw [decide_eq_false hle, tierValue, if_neg hle]
        exact ih (i + 1)

/-- **The limit is that of a tier**: the first whose bound is not below the number of users, or the
last. -/
theorem currentLimit_eq (h : EnabledTiers config tiers) (users : ActiveUsers) :
    currentLimit d config users = (tierValue (users.effectiveUsers : Int) tiers).map Json.int := by
  obtain ⟨objects, hobjects, hshape⟩ := h.tiers
  rw [← selectTier_eq users.effectiveUsers 0 hshape]
  unfold currentLimit getCurrentRateLimit
  dsimp only
  rw [h.enabled, hobjects]
  dsimp only [Bool.not_true, Option.getD_some, pyIter]
  cases hshape with
  | nil => exact absurd rfl h.nonempty
  | cons ht hrest =>
    rw [List.map_cons]
    rw [if_neg (by decide), Option.map_map]
    rfl

theorem tierValue_isSome (n : Int) (h : tiers ≠ []) : ∃ r, tierValue n tiers = some r := by
  induction tiers with
  | nil => exact absurd rfl h
  | cons t rest ih =>
    cases rest with
    | nil => exact ⟨_, rfl⟩
    | cons t' rest =>
      rw [tierValue]
      split
      · exact ⟨_, rfl⟩
      · exact ih (List.cons_ne_nil _ _)

end

/-- A count that is estimated as `n`. -/
def usersOf (n : Nat) : ActiveUsers := ⟨n, 0, 0, n⟩

/-- **More load never raises the limit** if and only if the limits fall along the tiers that some
number of users selects, and the last tier has the lowest. -/
theorem more_load_iff (d : String) (config : JsonObject) (tiers : List (Int × Int))
    (h : EnabledTiers config tiers) :
    LimitFalls d config tiers ↔ Descending 0 tiers ∧ LastLeast tiers := by
  rw [← tierValue_antitone_iff]
  constructor
  · intro hfalls
    constructor
    · intro u v hu huv x hx y hy
      obtain ⟨m, rfl⟩ := Int.eq_ofNat_of_zero_le hu
      obtain ⟨n, rfl⟩ := Int.eq_ofNat_of_zero_le (le_trans hu huv)
      obtain ⟨r, r', hr, hr', hle⟩ := hfalls.antitone (usersOf m) (usersOf n) (Int.ofNat_le.1 huv)
      rw [currentLimit_eq h] at hr hr'
      change (tierValue (m : Int) tiers).map Json.int = _ at hr
      change (tierValue (n : Int) tiers).map Json.int = _ at hr'
      rw [Option.mem_def.1 hx] at hr
      rw [Option.mem_def.1 hy] at hr'
      cases hr
      cases hr'
      exact hle
    · intro v hv hbeyond y hy
      obtain ⟨n, rfl⟩ := Int.eq_ofNat_of_zero_le hv
      obtain ⟨r, hr, hleast⟩ := hfalls.beyond (usersOf n) hbeyond
      rw [currentLimit_eq h] at hr
      change (tierValue (n : Int) tiers).map Json.int = _ at hr
      rw [Option.mem_def.1 hy] at hr
      cases hr
      exact hleast
  · intro hfalls
    constructor
    · intro users users' hle
      obtain ⟨r, hr⟩ := tierValue_isSome (users.effectiveUsers : Int) h.nonempty
      obtain ⟨r', hr'⟩ := tierValue_isSome (users'.effectiveUsers : Int) h.nonempty
      exact ⟨r, r', by rw [currentLimit_eq h, hr]; rfl, by rw [currentLimit_eq h, hr']; rfl,
        hfalls.antitone _ _ (Int.natCast_nonneg _) (Int.ofNat_le.2 hle) r hr r' hr'⟩
    · intro users hbeyond
      obtain ⟨r, hr⟩ := tierValue_isSome (users.effectiveUsers : Int) h.nonempty
      exact ⟨r, by rw [currentLimit_eq h, hr]; rfl, hfalls.beyond _ (Int.natCast_nonneg _)
        hbeyond r hr⟩

theorem more_load_default :
    LimitFalls "5000 per minute" defaultConfig [(50, 5000), (200, 2000), (500, 500),
      (999999, 200)] ↔
    Descending 0 [((50, 5000) : Int × Int), (200, 2000), (500, 500), (999999, 200)] ∧
      LastLeast [((50, 5000) : Int × Int), (200, 2000), (500, 500), (999999, 200)] := by
  refine more_load_iff "5000 per minute" defaultConfig _ ⟨rfl, List.cons_ne_nil _ _, ?_⟩
  refine ⟨[[("max_users", .int 50), ("rate_limit", .int 5000)],
    [("max_users", .int 200), ("rate_limit", .int 2000)],
    [("max_users", .int 500), ("rate_limit", .int 500)],
    [("max_users", .int 999999), ("rate_limit", .int 200)]], rfl, ?_⟩
  exact .cons ⟨rfl, rfl⟩ (.cons ⟨rfl, rfl⟩ (.cons ⟨rfl, rfl⟩ (.cons ⟨rfl, rfl⟩ .nil)))

/-- Two tiers, of which the second has the higher limit. -/
def risingTiers : List Json := [tierJson 100 10, tierJson 200 1000]

/-- The body with these tiers is accepted, and 150 users have a higher limit than none. -/
theorem more_load_raises : (putFirst (.obj [("tiers", .arr risingTiers)])).1.status = 200 ∧
    ((getCurrentRateLimit "5000 per minute"
      (getConfig (putFirst (.obj [("tiers", .arr risingTiers)])).2 false)
      (usersOf 0)).map (·.rateLimit.asInt)) = some (some 10) ∧
    ((getCurrentRateLimit "5000 per minute"
      (getConfig (putFirst (.obj [("tiers", .arr risingTiers)])).2 false)
      (usersOf 150)).map (·.rateLimit.asInt)) = some (some 1000) := by
  obtain ⟨hstatus, hconfig⟩ := @putFirst_tiers risingTiers (List.cons_ne_nil _ _) rfl (by
    change ((((Json.int 100).intsFit && ((Json.int 10).intsFit && true)) &&
      (((Json.int 200).intsFit && ((Json.int 1000).intsFit && true)) && true)) = true)
    rw [intsFit_small (i := 100) (by decide), intsFit_small (i := 10) (by decide),
      intsFit_small (i := 200) (by decide), intsFit_small (i := 1000) (by decide)]
    rfl)
  rw [hconfig]
  exact ⟨hstatus, by decide +kernel, by decide +kernel⟩

end PeHackathon.UrlShortener
