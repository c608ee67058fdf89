import Mathlib.Data.String.Basic
import PeHackathon.Lib.FixedWidth

/-!
# Dates in Python

`datetime.fromtimestamp(t, tz=UTC)` and `isoformat` of such a time. Times are in microseconds since
1970. `utcDateTime_earlier`: a later second has a later date and time, and up to the second the
texts are in that order (`baseText_lt`).
-/

namespace PeHackathon

open Lib

/-- The first moment of the year 1. -/
def minTime : Int := -62135596800000000

/-- The first moment after the year 9999. -/
def maxTime : Int := 253402300800000000

/-- A time of the years 1 to 9999. -/
def InYears (t : Int) : Prop := minTime ≤ t ∧ t < maxTime

instance (t : Int) : Decidable (InYears t) := inferInstanceAs (Decidable (_ ∧ _))

/-! ## The calendar -/

/-- `_DAYS_BEFORE_MONTH[month] + (month > 2 and leapyear)`. -/
def daysBeforeMonth (leapyear : Bool) (month : Nat) : Nat :=
  [0, 0, 31, 59, 90, 120, 151, 181, 212, 243, 273, 304, 334].getD month 0 +
    if 2 < month ∧ leapyear then 1 else 0

/-- Month and day of the `n`-th day of a year, from zero. -/
def monthDay (leapyear : Bool) (n : Nat) : Nat × Nat :=
  let month := (n + 50) / 32
  let month := if n < daysBeforeMonth leapyear month then month - 1 else month
  (month, n - daysBeforeMonth leapyear month + 1)

/-- `_ord2ymd`, with days counted from zero. -/
def ordToYmd (n : Nat) : Nat × Nat × Nat :=
  let n400 := n / 146097
  let n := n % 146097
  let n100 := n / 36524
  let n := n % 36524
  let n4 := n / 1461
  let n := n % 1461
  let n1 := n / 365
  let n := n % 365
  let year := n400 * 400 + 1 + n100 * 100 + n4 * 4 + n1
  if n1 = 4 ∨ n100 = 4 then (year - 1, 12, 31)
  else (year, monthDay (n1 == 3 && (n4 != 24 || n100 == 3)) n)

/-- A `datetime` in UTC. -/
structure DateTime where
  year : Nat
  month : Nat
  day : Nat
  hour : Nat
  minute : Nat
  second : Nat
  microsecond : Nat
  deriving DecidableEq, Repr

/-- The days and the microseconds of the day since the year 1. -/
def sinceYearOne (t : Int) : Nat × Nat :=
  let us := (t - minTime).toNat
  (us / 86400000000, us % 86400000000)

/-- `datetime.fromtimestamp(t, tz=UTC)` of a time of the years 1 to 9999. -/
def utcDateTime (t : Int) : DateTime :=
  let (days, us) := sinceYearOne t
  let (year, month, day) := ordToYmd days
  { year
    month
    day
    hour := us / 3600000000
    minute := us / 60000000 % 60
    second := us / 1000000 % 60
    microsecond := us % 1000000 }

/-! ## Text -/

namespace DateTime

variable (d : DateTime)

/-- Year to second. -/
def baseText : List Char :=
  fixedDigits 4 d.year ++ ['-'] ++
    (fixedDigits 2 d.month ++ ['-'] ++ (fixedDigits 2 d.day ++ ['T'] ++
    (fixedDigits 2 d.hour ++ [':'] ++ (fixedDigits 2 d.minute ++ [':'] ++ fixedDigits 2 d.second))))

/-- The microseconds, unless they are zero. -/
def fractionText : List Char :=
  if d.microsecond = 0 then [] else '.' :: fixedDigits 6 d.microsecond

/-- `d.isoformat()`. -/
def isoformat : String := String.ofList (d.baseText ++ d.fractionText ++ "+00:00".toList)

end DateTime

example : (utcDateTime 1767258000000001).isoformat = "2026-01-01T09:00:00.000001+00:00" := by decide

/-! ## Order -/

section Calendar

def isLeap (y : Nat) : Bool := y % 4 == 0 && (y % 100 != 0 || y % 400 == 0)

/-- The days before a year. -/
def yearStart (y : Nat) : Nat := 365 * (y - 1) + (y - 1) / 4 - (y - 1) / 100 + (y - 1) / 400

theorem div_succ (z k : Nat) : (z + 1) / k = z / k + if (z + 1) % k = 0 then 1 else 0 := by
  rw [Nat.succ_div]
  simp only [Nat.dvd_iff_mod_eq_zero]

/-- A year begins after the days of the one before. -/
theorem yearStart_succ {y : Nat} (hy : 0 < y) :
    yearStart (y + 1) = yearStart y + 365 + if isLeap y then 1 else 0 := by
  obtain ⟨z, rfl⟩ : ∃ z, y = z + 1 := ⟨y - 1, by omega⟩
  have hle : z / 100 ≤ z / 4 := Nat.div_le_div_left (by decide) (by decide)
  have hmod : (z + 1) % 100 = 0 → (z + 1) % 4 = 0 := by omega
  have hmod' : (z + 1) % 400 = 0 → (z + 1) % 100 = 0 := by omega
  unfold yearStart isLeap
  simp only [Nat.add_sub_cancel, Bool.and_eq_true, beq_iff_eq, Bool.or_eq_true, bne_iff_ne,
    div_succ z 4, div_succ z 100, div_succ z 400]
  by_cases hz4 : (z + 1) % 4 = 0
  · by_cases hz100 : (z + 1) % 100 = 0
    · by_cases hz400 : (z + 1) % 400 = 0
      · simp [hz4, hz100, hz400]
        omega
      · simp [hz4, hz100, hz400]
        omega
    · have hz400 : (z + 1) % 400 ≠ 0 := fun h => hz100 (hmod' h)
      simp [hz4, hz100, hz400]
      omega
  · have hz100 : (z + 1) % 100 ≠ 0 := fun h => hz4 (hmod h)
    have hz400 : (z + 1) % 400 ≠ 0 := fun h => hz100 (hmod' h)
    simp [hz4, hz100, hz400]
    omega

theorem yearStart_mono {y y' : Nat} (hy : 0 < y) (h : y ≤ y') : yearStart y ≤ yearStart y' := by
  induction y', h using Nat.le_induction with
  | base => exact le_refl _
  | succ k hk ih =>
    rw [yearStart_succ (by omega)]
    omega

/-- Where a day is in its year. -/
structure InYear (n y doy : Nat) : Prop where
  pos : 0 < y
  start : yearStart y + doy = n
  bound : doy < 365 + if isLeap y then 1 else 0

/-- Whether a year is a leap year, by its place in the cycles of 400, 100 and 4 years. -/
theorem leap_of_cycles (a b c d : Nat) (hb : b ≤ 3) (hc : c ≤ 24) (hd : d ≤ 3) :
    isLeap (a * 400 + 1 + b * 100 + c * 4 + d) = (d == 3 && (c != 24 || b == 3)) := by
  have m4 : (a * 400 + 1 + b * 100 + c * 4 + d) % 4 = 0 ↔ d = 3 := by omega
  have m100 : (a * 400 + 1 + b * 100 + c * 4 + d) % 100 = 0 ↔ c = 24 ∧ d = 3 := by omega
  have m400 : (a * 400 + 1 + b * 100 + c * 4 + d) % 400 = 0 ↔ b = 3 ∧ c = 24 ∧ d = 3 := by omega
  rw [Bool.eq_iff_iff]
  simp only [isLeap, Bool.and_eq_true, beq_iff_eq, Bool.or_eq_true, bne_iff_ne, ne_eq, m4,
    m100, m400]
  constructor
  · rintro ⟨hd3, hcentury | ⟨hb3, -⟩⟩
    · exact ⟨hd3, .inl fun hc24 => hcentury ⟨hc24, hd3⟩⟩
    · exact ⟨hd3, .inr hb3⟩
  · rintro ⟨hd3, hc24 | hb3⟩
    · exact ⟨hd3, .inl fun h => hc24 h.1⟩
    · by_cases hc24 : c = 24
      · exact ⟨hd3, .inr ⟨hb3, hc24, hd3⟩⟩
      · exact ⟨hd3, .inl fun h => hc24 h.1⟩

/-- A year by its place in the cycles. -/
theorem inYear_of_cycles (a b c d doy : Nat) (hb : b ≤ 3) (hc : c ≤ 24) (hd : d ≤ 3)
    (hdoy : doy < 365 + if d = 3 ∧ (c ≠ 24 ∨ b = 3) then 1 else 0) :
    InYear (a * 146097 + b * 36524 + c * 1461 + d * 365 + doy)
        (a * 400 + 1 + b * 100 + c * 4 + d) doy ∧
      isLeap (a * 400 + 1 + b * 100 + c * 4 + d) = (d == 3 && (c != 24 || b == 3)) := by
  have hleap := leap_of_cycles a b c d hb hc hd
  refine ⟨⟨by omega, ?_, ?_⟩, hleap⟩
  · have h4 : (a * 400 + 1 + b * 100 + c * 4 + d - 1) / 4 = a * 100 + b * 25 + c := by omega
    have h100 : (a * 400 + 1 + b * 100 + c * 4 + d - 1) / 100 = a * 4 + b := by omega
    have h400 : (a * 400 + 1 + b * 100 + c * 4 + d - 1) / 400 = a := by omega
    unfold yearStart
    rw [h4, h100, h400]
    omega
  · rw [hleap]
    simpa using hdoy

theorem ordToYmd_inYear (n : Nat) :
    ∃ y doy, InYear n y doy ∧ ordToYmd n = (y, monthDay (isLeap y) doy) := by
  have ha := Nat.div_add_mod n 146097
  have hra := Nat.mod_lt n (show 146097 > 0 by decide)
  have hb := Nat.div_add_mod (n % 146097) 36524
  have hrb := Nat.mod_lt (n % 146097) (show 36524 > 0 by decide)
  have hc := Nat.div_add_mod (n % 146097 % 36524) 1461
  have hrc := Nat.mod_lt (n % 146097 % 36524) (show 1461 > 0 by decide)
  have hd := Nat.div_add_mod (n % 146097 % 36524 % 1461) 365
  have hrd := Nat.mod_lt (n % 146097 % 36524 % 1461) (show 365 > 0 by decide)
  unfold ordToYmd
  dsimp only
  generalize n / 146097 = a at *
  generalize n % 146097 = ra at *
  generalize ra / 36524 = b at *
  generalize ra % 36524 = rb at *
  generalize rb / 1461 = c at *
  generalize rb % 1461 = rc at *
  generalize rc / 365 = d at *
  generalize rc % 365 = rd at *
  by_cases hcap : d = 4 ∨ b = 4
  · -- the last day of a cycle of four, or of four hundred, years
    rw [if_pos hcap]
    by_cases hb4 : b = 4
    · obtain ⟨hyear, hleap⟩ := inYear_of_cycles a 3 24 3 365
        (le_refl _) (le_refl _) (le_refl _) (by decide)
      refine ⟨a * 400 + 1 + 3 * 100 + 24 * 4 + 3, 365, ?_, ?_⟩
      · convert hyear using 1
        omega
      · rw [hleap, Prod.mk.injEq]
        exact ⟨by omega, rfl⟩
    · have hd4 : d = 4 := hcap.resolve_right hb4
      obtain ⟨hyear, hleap⟩ := inYear_of_cycles a b c 3 365
        (by omega) (by omega) (le_refl _) (by rw [if_pos ⟨rfl, .inl (by omega)⟩]; decide)
      have hc24 : c ≠ 24 := by omega
      refine ⟨a * 400 + 1 + b * 100 + c * 4 + 3, 365, ?_, ?_⟩
      · convert hyear using 1
        omega
      · rw [hleap, Prod.mk.injEq]
        have hnot : (c != 24) = true := by simpa using hc24
        rw [hnot]
        exact ⟨by omega, rfl⟩
  · rw [if_neg hcap]
    rw [not_or] at hcap
    obtain ⟨hyear, hleap⟩ := inYear_of_cycles a b c d rd
      (by omega) (by omega) (by omega) (by omega)
    refine ⟨a * 400 + 1 + b * 100 + c * 4 + d, rd, ?_, ?_⟩
    · convert hyear using 1
      omega
    · rw [hleap]

/-- Month and day as one number, which grows with the day of the year. -/
theorem monthDay_step (leapyear : Bool) : ∀ i < 365,
    (monthDay leapyear i).1 * 100 + (monthDay leapyear i).2 <
      (monthDay leapyear (i + 1)).1 * 100 + (monthDay leapyear (i + 1)).2 := by
  revert leapyear
  decide +kernel

theorem monthDay_bounds (leapyear : Bool) : ∀ i < 366,
    (monthDay leapyear i).1 < 100 ∧ (monthDay leapyear i).2 < 100 := by
  revert leapyear
  decide +kernel

theorem monthDay_lt (leapyear : Bool) {i j : Nat} (hij : i < j) (hj : j < 366) :
    (monthDay leapyear i).1 * 100 + (monthDay leapyear i).2 <
      (monthDay leapyear j).1 * 100 + (monthDay leapyear j).2 := by
  induction j, hij using Nat.le_induction with
  | base => exact monthDay_step leapyear i (by omega)
  | succ j hij ih => exact (ih (by omega)).trans (monthDay_step leapyear j (by omega))

/-- **A later day has a later date.** -/
theorem ordToYmd_lt {n n' : Nat} (h : n < n') :
    (ordToYmd n).1 < (ordToYmd n').1 ∨ (ordToYmd n).1 = (ordToYmd n').1 ∧
      (ordToYmd n).2.1 * 100 + (ordToYmd n).2.2 < (ordToYmd n').2.1 * 100 + (ordToYmd n').2.2 := by
  obtain ⟨y, doy, hyear, heq⟩ := ordToYmd_inYear n
  obtain ⟨y', doy', hyear', heq'⟩ := ordToYmd_inYear n'
  rw [heq, heq']
  dsimp only
  have hbound : doy' < 366 := hyear'.bound.trans_le (by split <;> omega)
  have hstart := hyear.start
  have hstart' := hyear'.start
  rcases lt_trichotomy y y' with hlt | rfl | hgt
  · exact .inl hlt
  · exact .inr ⟨rfl, monthDay_lt _ (by omega) hbound⟩
  · exfalso
    have hmono := yearStart_mono (Nat.succ_pos y') hgt
    rw [yearStart_succ hyear'.pos] at hmono
    have := hyear'.bound
    omega

theorem ordToYmd_bounds (n : Nat) : (ordToYmd n).2.1 < 100 ∧ (ordToYmd n).2.2 < 100 := by
  obtain ⟨y, doy, hyear, heq⟩ := ordToYmd_inYear n
  rw [heq]
  exact monthDay_bounds _ doy (hyear.bound.trans_le (by split <;> omega))

theorem ordToYmd_year {n : Nat} (h : n < 3652059) : (ordToYmd n).1 < 10000 := by
  obtain ⟨y, doy, hyear, heq⟩ := ordToYmd_inYear n
  rw [heq]
  by_contra hlate
  have hmono : yearStart 10000 ≤ yearStart y := yearStart_mono (by decide) (not_lt.1 hlate)
  have hstart := hyear.start
  have hlast : yearStart 10000 = 3652059 := by decide
  omega

end Calendar

section Text

/-- A field of a text, and what comes after it. -/
theorem field_lt {k a b : Nat} {c : Char} {s t : List Char} (hb : b < 10 ^ k)
    (h : a < b ∨ a = b ∧ s < t) : fixedDigits k a ++ [c] ++ s < fixedDigits k b ++ [c] ++ t := by
  rcases h with hlt | ⟨rfl, hst⟩
  · rw [List.append_assoc, List.append_assoc]
    refine append_lt_of_lt ?_ (fixedDigits_lt hlt hb) _ _
    rw [length_fixedDigits, length_fixedDigits]
  · exact append_lt_left _ hst

/-- The fields of a text as numbers of at most two digits, and the year of at most four. -/
structure DateTime.Printable (d : DateTime) : Prop where
  year : d.year < 10 ^ 4
  month : d.month < 10 ^ 2
  day : d.day < 10 ^ 2
  hour : d.hour < 10 ^ 2
  minute : d.minute < 10 ^ 2
  second : d.second < 10 ^ 2

/-- The order of the fields, up to the second. -/
def DateTime.Earlier (d d' : DateTime) : Prop :=
  d.year < d'.year ∨ d.year = d'.year ∧ (d.month < d'.month ∨ d.month = d'.month ∧
    (d.day < d'.day ∨ d.day = d'.day ∧ (d.hour < d'.hour ∨ d.hour = d'.hour ∧
      (d.minute < d'.minute ∨ d.minute = d'.minute ∧ d.second < d'.second))))

theorem DateTime.baseText_lt {d d' : DateTime} (hd' : d'.Printable) (h : d.Earlier d') :
    d.baseText < d'.baseText := by
  refine field_lt hd'.year (h.imp_right fun h => ⟨h.1, ?_⟩)
  refine field_lt hd'.month (h.2.imp_right fun h => ⟨h.1, ?_⟩)
  refine field_lt hd'.day (h.2.imp_right fun h => ⟨h.1, ?_⟩)
  refine field_lt hd'.hour (h.2.imp_right fun h => ⟨h.1, ?_⟩)
  refine field_lt hd'.minute (h.2.imp_right fun h => ⟨h.1, ?_⟩)
  exact fixedDigits_lt h.2 hd'.second

variable {t t' : Int}

theorem utcDateTime_printable (h : InYears t) : (utcDateTime t).Printable := by
  have hdays : (sinceYearOne t).1 < 3652059 := by
    unfold sinceYearOne InYears minTime maxTime at *
    dsimp only
    omega
  have hus : (sinceYearOne t).2 < 86400000000 := Nat.mod_lt _ (by decide)
  obtain ⟨hmonth, hday⟩ := ordToYmd_bounds (sinceYearOne t).1
  refine ⟨ordToYmd_year hdays, hmonth, hday, ?_, ?_, ?_⟩
  · change (sinceYearOne t).2 / 3600000000 < 10 ^ 2
    omega
  · change (sinceYearOne t).2 / 60000000 % 60 < 10 ^ 2
    omega
  · change (sinceYearOne t).2 / 1000000 % 60 < 10 ^ 2
    omega

/-- A later second has a later date and time. -/
theorem utcDateTime_earlier (h : InYears t) (h' : InYears t') (hlt : t / 1000000 < t' / 1000000) :
    (utcDateTime t).Earlier (utcDateTime t') := by
  obtain ⟨hmonth, hday⟩ := ordToYmd_bounds (sinceYearOne t).1
  obtain ⟨hmonth', hday'⟩ := ordToYmd_bounds (sinceYearOne t').1
  have hsplit :
      (sinceYearOne t).1 < (sinceYearOne t').1 ∨ (sinceYearOne t).1 = (sinceYearOne t').1 ∧
      (sinceYearOne t).2 / 1000000 < (sinceYearOne t').2 / 1000000 := by
    unfold sinceYearOne InYears minTime maxTime at *
    dsimp only
    omega
  rcases hsplit with hdays | ⟨hdays, hus⟩
  · rcases ordToYmd_lt hdays with hyear | ⟨hyear, hkey⟩
    · exact .inl hyear
    · refine .inr ⟨hyear, ?_⟩
      have hdate : (ordToYmd (sinceYearOne t).1).2.1 < (ordToYmd (sinceYearOne t').1).2.1 ∨
          (ordToYmd (sinceYearOne t).1).2.1 = (ordToYmd (sinceYearOne t').1).2.1 ∧
            (ordToYmd (sinceYearOne t).1).2.2 < (ordToYmd (sinceYearOne t').1).2.2 := by
        omega
      exact hdate.imp_right fun h => ⟨h.1, .inl h.2⟩
  · refine .inr ⟨congrArg (fun n => (ordToYmd n).1) hdays, .inr
      ⟨congrArg (fun n => (ordToYmd n).2.1) hdays,
        .inr ⟨congrArg (fun n => (ordToYmd n).2.2) hdays, ?_⟩⟩⟩
    change (sinceYearOne t).2 / 3600000000 < (sinceYearOne t').2 / 3600000000 ∨
      (sinceYearOne t).2 / 3600000000 = (sinceYearOne t').2 / 3600000000 ∧
        ((sinceYearOne t).2 / 60000000 % 60 < (sinceYearOne t').2 / 60000000 % 60 ∨
          (sinceYearOne t).2 / 60000000 % 60 = (sinceYearOne t').2 / 60000000 % 60 ∧
            (sinceYearOne t).2 / 1000000 % 60 < (sinceYearOne t').2 / 1000000 % 60)
    omega

end Text

end PeHackathon
