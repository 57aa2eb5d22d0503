import Mathlib.Data.Int.ConditionallyCompleteOrder
import Mathlib.Data.Int.SuccPred
import Mathlib.Algebra.Order.Ring.Int

/-!
# Calendar — business dates, instants and the local time zone

A date is an `Int`, its proleptic Gregorian ordinal (day 1 is 1 January of year 1), split into year,
month and day the way the standard date type does it.  An instant is an `Int` too, a moment of the
server clock; a `Zone` reads the business date off an instant and names the noon that backdated
sales are booked at.
-/

namespace RosarioDairy

structure YearMonthDay where
  year : Nat
  month : Nat
  day : Nat
  deriving DecidableEq, Repr

namespace Day

/-- Days of a common year before the first of each month, and past its end. -/
def daysBeforeMonth : Nat → Nat
  | 2 => 31
  | 3 => 59
  | 4 => 90
  | 5 => 120
  | 6 => 151
  | 7 => 181
  | 8 => 212
  | 9 => 243
  | 10 => 273
  | 11 => 304
  | 12 => 334
  | 13 => 365
  | _ => 0

/-- Split an ordinal into year, month and day. -/
def toYmd (ordinal : Int) : YearMonthDay :=
  let n := (ordinal - 1).toNat
  let n400 := n / 146097
  let n := n % 146097
  let n100 := n / 36524
  let n := n % 36524
  let n4 := n / 1461
  let n := n % 1461
  let n1 := n / 365
  let n := n % 365
  let year := n400 * 400 + 1 + n100 * 100 + n4 * 4 + n1
  if n1 = 4 ∨ n100 = 4 then
    { year := year - 1, month := 12, day := 31 }
  else
    let leap := if n1 = 3 ∧ (n4 ≠ 24 ∨ n100 = 3) then 1 else 0
    let preceding (month : Nat) : Nat := daysBeforeMonth month + if 2 < month then leap else 0
    let estimate := (n + 50) / 32
    let month := if n < preceding estimate then estimate - 1 else estimate
    { year := year, month := month, day := n - preceding month + 1 }

def year (d : Int) : Nat := (toYmd d).year

def month (d : Int) : Nat := (toYmd d).month

/-- Days before the first of January of a year. -/
def daysBeforeYear (year : Nat) : Nat :=
  (year - 1) * 365 + (year - 1) / 4 - (year - 1) / 100 + (year - 1) / 400

def isLeap (year : Nat) : Bool := year % 4 == 0 && (year % 100 != 0 || year % 400 == 0)

/-- The ordinal of a year, month and day. -/
def ofYmd (date : YearMonthDay) : Int :=
  daysBeforeYear date.year + daysBeforeMonth date.month
    + (if 2 < date.month && isLeap date.year then 1 else 0) + date.day

example : toYmd 738945 = { year := 2024, month := 2, day := 29 } := by decide

example : ofYmd { year := 2024, month := 2, day := 29 } = 738945 := by decide

/-! ## The days of a year -/

/-- Days of a year beyond 365. -/
def leapDays (year : Nat) : Nat := if isLeap year then 1 else 0

theorem isLeap_iff {year : Nat} :
    isLeap year = true ↔ year % 4 = 0 ∧ (year % 100 ≠ 0 ∨ year % 400 = 0) := by
  simp [isLeap]

theorem daysBeforeYear_succ {year : Nat} (hyear : 1 ≤ year) :
    daysBeforeYear (year + 1) = daysBeforeYear year + 365 + leapDays year := by
  obtain ⟨k, rfl⟩ : ∃ k, year = k + 1 := ⟨year - 1, by omega⟩
  have hcentury : k / 100 ≤ k := Nat.div_le_self k 100
  unfold daysBeforeYear leapDays
  simp only [Nat.add_sub_cancel, Nat.succ_div, isLeap_iff, Nat.dvd_iff_mod_eq_zero]
  generalize k / 4 = fours, k / 100 = centuries, k / 400 = cycles at *
  by_cases hfour : (k + 1) % 4 = 0
  · by_cases hhundred : (k + 1) % 100 = 0
    · by_cases hcycle : (k + 1) % 400 = 0
      · rw [if_pos hfour, if_pos hhundred, if_pos hcycle, if_pos ⟨hfour, Or.inr hcycle⟩]
        omega
      · have hcommon : ¬((k + 1) % 4 = 0 ∧ ((k + 1) % 100 ≠ 0 ∨ (k + 1) % 400 = 0)) := by omega
        rw [if_pos hfour, if_pos hhundred, if_neg hcycle, if_neg hcommon]
        omega
    · have hcycle : ¬(k + 1) % 400 = 0 := by omega
      rw [if_pos hfour, if_neg hhundred, if_neg hcycle, if_pos ⟨hfour, Or.inl hhundred⟩]
      omega
  · have hhundred : ¬(k + 1) % 100 = 0 := by omega
    have hcycle : ¬(k + 1) % 400 = 0 := by omega
    rw [if_neg hfour, if_neg hhundred, if_neg hcycle, if_neg fun h => hfour h.1]
    omega

/-- Every day lies in a year. -/
theorem exists_year (n : Nat) :
    ∃ year r, 1 ≤ year ∧ r < 365 + leapDays year ∧ n = daysBeforeYear year + r := by
  induction n with
  | zero => exact ⟨1, 0, by decide, by decide, by decide⟩
  | succ n ih =>
      obtain ⟨year, r, hyear, hr, rfl⟩ := ih
      by_cases hlast : r + 1 < 365 + leapDays year
      · exact ⟨year, r + 1, hyear, hlast, rfl⟩
      · refine ⟨year + 1, 0, by omega, by omega, ?_⟩
        rw [daysBeforeYear_succ hyear]
        omega

/-- Days of a year before a month. -/
def preceding (leap : Bool) (month : Nat) : Nat :=
  daysBeforeMonth month + if 2 < month then leap.toNat else 0

/-- The month of a day of a year. -/
def monthOfDay (leap : Bool) (r : Nat) : Nat :=
  if r < preceding leap ((r + 50) / 32) then (r + 50) / 32 - 1 else (r + 50) / 32

theorem toYmd_of_year {year r : Nat} (hyear : 1 ≤ year) (hr : r < 365 + leapDays year) :
    toYmd (daysBeforeYear year + r + 1 : Nat) =
      { year := year
        month := monthOfDay (isLeap year) r
        day := r - preceding (isLeap year) (monthOfDay (isLeap year) r) + 1 } := by
  -- the year in its cycles of 400, 100 and 4 years
  obtain ⟨a, b, c, d, hb, hc, hd, hEq⟩ : ∃ a b c d, b < 4 ∧ c < 25 ∧ d < 4 ∧
      year = 400 * a + 100 * b + 4 * c + d + 1 :=
    ⟨(year - 1) / 400, (year - 1) % 400 / 100, (year - 1) % 100 / 4, (year - 1) % 4,
      by omega, by omega, by omega, by omega⟩
  have hdays : daysBeforeYear year = 146097 * a + 36524 * b + 1461 * c + 365 * d := by
    unfold daysBeforeYear
    have h1 : (year - 1) / 4 = 100 * a + 25 * b + c := by omega
    have h2 : (year - 1) / 100 = 4 * a + b := by omega
    have h3 : (year - 1) / 400 = a := by omega
    rw [h1, h2, h3]
    omega
  have hleap : isLeap year = true ↔ d = 3 ∧ (c ≠ 24 ∨ b = 3) := by
    rw [isLeap_iff]
    omega
  -- the day number is what the divisions of `toYmd` take apart
  have hn : (((daysBeforeYear year + r + 1 : Nat) : Int) - 1).toNat =
      146097 * a + 36524 * b + 1461 * c + 365 * d + r := by omega
  -- the day of the year is below 365, or the last of a leap year
  have hshort : ¬isLeap year = true → r < 365 := by
    intro hcommon
    simpa [leapDays, hcommon] using hr
  have hlong : r < 366 := by
    have hle : leapDays year ≤ 1 := by
      unfold leapDays
      split
      · exact Nat.le_refl 1
      · exact Nat.zero_le 1
    omega
  have hcycle : (146097 * a + 36524 * b + 1461 * c + 365 * d + r) / 146097 = a := by omega
  have hrest : (146097 * a + 36524 * b + 1461 * c + 365 * d + r) % 146097 =
      36524 * b + 1461 * c + 365 * d + r := by omega
  unfold toYmd
  simp only [hn, hcycle, hrest]
  by_cases hlast : r = 365
  · -- the last day of a leap year is not reached by the divisions
    have hleapYear : isLeap year = true := by
      by_contra hcommon
      have := hshort hcommon
      omega
    obtain ⟨hd3, hlate⟩ := hleap.1 hleapYear
    subst hlast
    rw [hleapYear]
    have hmonth : monthOfDay true 365 = 12 := by decide
    have hpreceding : preceding true 12 = 335 := by decide
    rw [hmonth, hpreceding]
    by_cases hcentury : b = 3 ∧ c = 24
    · obtain ⟨rfl, rfl⟩ := hcentury
      subst hd3
      rw [if_pos (Or.inr (by decide)), YearMonthDay.mk.injEq]
      exact ⟨by omega, rfl, rfl⟩
    · have h100 : (36524 * b + 1461 * c + 365 * d + 365) / 36524 = b := by omega
      have hr100 : (36524 * b + 1461 * c + 365 * d + 365) % 36524 = 1461 * c + 365 * d + 365 := by
        omega
      have h4 : (1461 * c + 365 * d + 365) / 1461 = c := by omega
      have hr4 : (1461 * c + 365 * d + 365) % 1461 = 1460 := by omega
      simp only [h100, hr100, h4, hr4]
      rw [if_pos (Or.inl (by decide)), YearMonthDay.mk.injEq]
      exact ⟨by omega, rfl, rfl⟩
  · -- any earlier day is found by the divisions alone
    have hr364 : r < 365 := by omega
    have h100 : (36524 * b + 1461 * c + 365 * d + r) / 36524 = b := by omega
    have hr100 : (36524 * b + 1461 * c + 365 * d + r) % 36524 = 1461 * c + 365 * d + r := by omega
    have h4 : (1461 * c + 365 * d + r) / 1461 = c := by omega
    have hr4 : (1461 * c + 365 * d + r) % 1461 = 365 * d + r := by omega
    have h1 : (365 * d + r) / 365 = d := by omega
    have hr1 : (365 * d + r) % 365 = r := by omega
    -- the leap day that `toYmd` counts is the one of this year
    have hleapDay : (if d = 3 ∧ (c ≠ 24 ∨ b = 3) then 1 else 0) = (isLeap year).toNat := by
      by_cases hleapYear : isLeap year = true
      · rw [if_pos (hleap.1 hleapYear), hleapYear]
        rfl
      · have hcommon : isLeap year = false := by simpa using hleapYear
        rw [if_neg fun h => hleapYear (hleap.2 h), hcommon]
        rfl
    simp only [h100, hr100, h4, hr4, h1, hr1, hleapDay]
    rw [if_neg (by omega), YearMonthDay.mk.injEq]
    exact ⟨by omega, rfl, rfl⟩

/-- The months of a year in order: each starts on one of its days. -/
theorem monthOfDay_start : ∀ leap : Bool, ∀ r < 366,
    1 ≤ monthOfDay leap r ∧ monthOfDay leap r ≤ 12 ∧ preceding leap (monthOfDay leap r) ≤ r ∧
      monthOfDay leap (preceding leap (monthOfDay leap r)) = monthOfDay leap r := by
  decide +kernel

/-- Each month ends before the next one starts. -/
theorem monthOfDay_end : ∀ leap : Bool, ∀ r < 365 + leap.toNat,
    r < preceding leap (monthOfDay leap r + 1) := by
  decide +kernel

theorem preceding_mono : ∀ leap : Bool, ∀ n < 14, ∀ m < n, 1 ≤ m →
    preceding leap m < preceding leap n := by
  decide +kernel

theorem preceding_le_year : ∀ leap : Bool, ∀ m < 14, preceding leap m ≤ 365 + leap.toNat := by
  decide +kernel

theorem monthOfDay_eq {leap : Bool} {r m : Nat} (hfirst : 1 ≤ m) (hlast : m ≤ 12)
    (hle : preceding leap m ≤ r) (hlt : r < preceding leap (m + 1)) : monthOfDay leap r = m := by
  have hyear : r < 365 + leap.toNat :=
    Nat.lt_of_lt_of_le hlt (preceding_le_year leap (m + 1) (by omega))
  have hlong : r < 366 := by
    have hleap : leap.toNat ≤ 1 := Bool.toNat_le leap
    omega
  obtain ⟨hfirst', hlast', hle', _⟩ := monthOfDay_start leap r hlong
  have hlt' := monthOfDay_end leap r hyear
  rcases Nat.lt_trichotomy (monthOfDay leap r) m with hless | hEq | hmore
  · -- the month would have ended before the day
    have hmono : preceding leap (monthOfDay leap r + 1) ≤ preceding leap m := by
      rcases Nat.lt_or_eq_of_le hless with h | h
      · exact Nat.le_of_lt (preceding_mono leap m (by omega) _ h (by omega))
      · exact Nat.le_of_eq (congrArg (preceding leap) h)
    omega
  · exact hEq
  · have hmono : preceding leap (m + 1) ≤ preceding leap (monthOfDay leap r) := by
      rcases Nat.lt_or_eq_of_le hmore with h | h
      · exact Nat.le_of_lt (preceding_mono leap _ (by omega) _ h (by omega))
      · exact Nat.le_of_eq (congrArg (preceding leap) h)
    omega

theorem leapDays_eq (year : Nat) : leapDays year = (isLeap year).toNat := by
  unfold leapDays
  cases isLeap year with
  | true => rfl
  | false => rfl

/-- The date of a day of a month. -/
theorem toYmd_of_month {year m r : Nat} (hyear : 1 ≤ year) (hfirst : 1 ≤ m) (hlast : m ≤ 12)
    (hle : preceding (isLeap year) m ≤ r) (hlt : r < preceding (isLeap year) (m + 1)) :
    toYmd (daysBeforeYear year + r + 1 : Nat) =
      { year := year
        month := m
        day := r - preceding (isLeap year) m + 1 } := by
  have hr : r < 365 + leapDays year := by
    rw [leapDays_eq]
    exact Nat.lt_of_lt_of_le hlt (preceding_le_year (isLeap year) (m + 1) (by omega))
  rw [toYmd_of_year hyear hr, monthOfDay_eq hfirst hlast hle hlt]

theorem ofYmd_first (year month : Nat) :
    ofYmd { year := year, month := month, day := 1 } =
      daysBeforeYear year + preceding (isLeap year) month + 1 := by
  unfold ofYmd preceding
  cases hleap : isLeap year with
  | true =>
      by_cases hlate : 2 < month
      · simp only [hlate, decide_true, Bool.and_self, if_true, Bool.toNat_true]
        push_cast
        omega
      · simp [hlate]
  | false => by_cases hlate : 2 < month <;> simp [hlate]

/-- The first day of the month of a day. -/
theorem first_of_month {day : Int} (hday : 1 ≤ day) :
    1 ≤ (toYmd day).year ∧ 1 ≤ (toYmd day).month ∧ (toYmd day).month ≤ 12 ∧
      ofYmd { year := (toYmd day).year, month := (toYmd day).month, day := 1 } =
        day - (toYmd day).day + 1 ∧
      toYmd (day - (toYmd day).day + 1) =
        { year := (toYmd day).year, month := (toYmd day).month, day := 1 } := by
  obtain ⟨year, r, hyear, hr, hn⟩ := exists_year (day - 1).toNat
  have hEq : day = ((daysBeforeYear year + r + 1 : Nat) : Int) := by omega
  have hlong : r < 366 := Nat.lt_of_lt_of_le hr (by
    unfold leapDays
    split <;> omega)
  obtain ⟨hfirst, hlast, hle, hstart⟩ := monthOfDay_start (isLeap year) r hlong
  have hymd := toYmd_of_year hyear hr
  rw [← hEq] at hymd
  have hpast : day - (toYmd day).day + 1 =
      ((daysBeforeYear year + preceding (isLeap year) (monthOfDay (isLeap year) r) + 1 : Nat) :
        Int) := by
    rw [hymd]
    simp only
    omega
  rw [hpast, toYmd_of_year hyear (Nat.lt_of_le_of_lt hle hr), hstart, hymd, ofYmd_first]
  refine ⟨hyear, hfirst, hlast, ?_, ?_⟩
  · push_cast
    rfl
  · rw [Nat.sub_self]

/-- Days before the first of the months, counted from January of year 0. -/
theorem first_of_next_month {index : Nat} (hindex : 12 ≤ index) :
    ofYmd { year := index / 12, month := index % 12 + 1, day := 1 } ≤
      ofYmd { year := (index + 1) / 12, month := (index + 1) % 12 + 1, day := 1 } := by
  rw [ofYmd_first, ofYmd_first]
  by_cases hlast : index % 12 = 11
  · have hyear : (index + 1) / 12 = index / 12 + 1 := by omega
    have hmonth : (index + 1) % 12 = 0 := by omega
    have hdecember : ∀ leap, preceding leap 12 ≤ 365 := by decide
    have hle := hdecember (isLeap (index / 12))
    rw [hyear, hmonth, hlast, daysBeforeYear_succ (by omega)]
    push_cast
    omega
  · have hyear : (index + 1) / 12 = index / 12 := by omega
    have hmonth : (index + 1) % 12 = index % 12 + 1 := by omega
    have hlater : ∀ leap, ∀ m < 11, preceding leap (m + 1) ≤ preceding leap (m + 1 + 1) := by decide
    have hle := hlater (isLeap (index / 12)) (index % 12) (by omega)
    rw [hyear, hmonth]
    omega

end Day

/-- The time zone of the business: the local date of an instant, and the local noon of a date. -/
structure Zone where
  localDate : Int → Int
  noon : Int → Int
  mono : Monotone localDate
  localDate_noon : ∀ d, localDate (noon d) = d

attribute [simp] Zone.localDate_noon

/-- A time zone whose days are `86400` seconds long and start at a multiple of them. -/
def Zone.fixed : Zone :=
  { localDate := fun t => t / 86400
    noon := fun d => d * 86400 + 43200
    mono := fun _ _ h => Int.ediv_le_ediv (by omega) h
    localDate_noon := fun d => by omega }

/-- The clock a service call reads. -/
structure Clock where
  zone : Zone
  now : Int

/-- The business date of the call. -/
def Clock.today (clock : Clock) : Int := clock.zone.localDate clock.now

end RosarioDairy
