import Mathlib.Algebra.BigOperators.Group.List.Basic
import Mathlib.Data.List.Chain
import Mathlib.Data.List.Dedup
import RosarioDairy.Forecasting.Data
import RosarioDairy.Forecasting.Seasonal

/-!
# Learning — months of recorded regular revenue

Calendar months, their revisions, and the latest gapless stretch of them, which is what monthly models
are trained on and what prospective evidence is cut from.
-/

namespace RosarioDairy
namespace Forecasting

/-! ## Months -/

def monthStart (day : Int) : Int := day - (Day.toYmd day).day + 1

/-- Months are counted from January of year 0. -/
def shiftMonth (month : Int) (count : Int) : Int :=
  let index := (Day.year month : Int) * 12 + Day.month month - 1 + count
  Day.ofYmd
    { year := (index / 12).toNat
      month := (index % 12).toNat + 1
      day := 1 }

/-- `calendar.monthrange(year, month)[1]` -/
def daysInMonth (year month : Nat) : Nat :=
  Day.daysBeforeMonth (month + 1) - Day.daysBeforeMonth month
    + if month = 2 && Day.isLeap year then 1 else 0

def monthEnd (month : Int) : Int :=
  Day.ofYmd
    { year := Day.year month
      month := Day.month month
      day := daysInMonth (Day.year month) (Day.month month) }

example : shiftMonth 738945 (-2) = Day.ofYmd { year := 2023, month := 12, day := 1 } := by decide

example : monthEnd 738945 = 738945 := by decide

/-- The first days of the months from January of year 1 on are in order. -/
theorem ofYmd_first_mono (index : Nat) (hindex : 12 ≤ index) (n : Nat) :
    Day.ofYmd { year := index / 12, month := index % 12 + 1, day := 1 } ≤
      Day.ofYmd { year := (index + n) / 12, month := (index + n) % 12 + 1, day := 1 } := by
  induction n with
  | zero => exact Int.le_refl _
  | succ n ih => exact Int.le_trans ih (Day.first_of_next_month (by omega))

theorem shiftMonth_eq {month : Int} (hmonth : 1 ≤ Day.month month) (n : Nat) :
    shiftMonth month n =
      Day.ofYmd
        { year := (Day.year month * 12 + (Day.month month - 1) + n) / 12
          month := (Day.year month * 12 + (Day.month month - 1) + n) % 12 + 1
          day := 1 } := by
  have hindex : (Day.year month : Int) * 12 + Day.month month - 1 + n =
      ((Day.year month * 12 + (Day.month month - 1) + n : Nat) : Int) := by omega
  unfold shiftMonth
  simp only [hindex]
  norm_cast

/-- The months from the month of a day on start on or after it. -/
theorem monthStart_le_shiftMonth (day : Int) (n : Nat) :
    monthStart day ≤ shiftMonth (monthStart day) n := by
  by_cases hday : 1 ≤ day
  · obtain ⟨hyear, hfirst, hlast, hof, hto⟩ := Day.first_of_month hday
    have hstart : Day.toYmd (monthStart day) =
        { year := (Day.toYmd day).year
          month := (Day.toYmd day).month
          day := 1 } := hto
    have hy : Day.year (monthStart day) = (Day.toYmd day).year := by rw [Day.year, hstart]
    have hm : Day.month (monthStart day) = (Day.toYmd day).month := by
      rw [Day.month, hstart]
    -- months are counted from the year zero, so a shift by whole months is an addition
    have hmono := ofYmd_first_mono ((Day.toYmd day).year * 12 + ((Day.toYmd day).month - 1))
      (by omega) n
    have hyear' : ((Day.toYmd day).year * 12 + ((Day.toYmd day).month - 1)) / 12 =
        (Day.toYmd day).year := by omega
    have hmonth' : ((Day.toYmd day).year * 12 + ((Day.toYmd day).month - 1)) % 12 + 1 =
        (Day.toYmd day).month := by omega
    rw [hyear', hmonth', hof] at hmono
    rw [shiftMonth_eq (by rw [hm]; exact hfirst), hy, hm]
    exact hmono
  · -- days before the calendar read as its first day
    have hto : Day.toYmd day = { year := 1, month := 1, day := 1 } := by
      unfold Day.toYmd
      have hzero : (day - 1).toNat = 0 := by omega
      rw [hzero]
      rfl
    have hstart : monthStart day = day := by
      unfold monthStart
      rw [hto]
      simp
    have hmono := ofYmd_first_mono 12 (Nat.le_refl 12) n
    have hy : Day.year day = 1 := congrArg YearMonthDay.year hto
    have hm : Day.month day = 1 := congrArg YearMonthDay.month hto
    have hfirst : Day.ofYmd { year := 12 / 12, month := 12 % 12 + 1, day := 1 } = 1 := by decide
    rw [hstart, shiftMonth_eq (by rw [hm]), hy, hm]
    -- the shifted month is not before the first of the calendar
    have hle : (1 : Int) ≤ Day.ofYmd
        { year := (12 + n) / 12
          month := (12 + n) % 12 + 1
          day := 1 } := hfirst ▸ hmono
    exact Int.le_trans (by omega) hle

/-! ### The days of a month -/

/-- The first day of a month of the calendar. -/
def IsMonth (month : Int) : Prop :=
  ∃ year m : Nat, 1 ≤ year ∧ 1 ≤ m ∧ m ≤ 12 ∧
    month = ((Day.daysBeforeYear year + Day.preceding (Day.isLeap year) m + 1 : Nat) : Int)

theorem isMonth_monthStart {day : Int} (hday : 1 ≤ day) :
    IsMonth (monthStart day) ∧ monthStart day ≤ day := by
  obtain ⟨hyear, hfirst, hlast, hof, _⟩ := Day.first_of_month hday
  refine ⟨⟨(Day.toYmd day).year, (Day.toYmd day).month, hyear, hfirst, hlast, ?_⟩, ?_⟩
  · unfold monthStart
    rw [← hof, Day.ofYmd_first]
    push_cast
    rfl
  · obtain ⟨year, r, hyear', hr, hn⟩ := Day.exists_year (day - 1).toNat
    have hEq : day = ((Day.daysBeforeYear year + r + 1 : Nat) : Int) := by omega
    have hymd := Day.toYmd_of_year hyear' hr
    rw [← hEq] at hymd
    unfold monthStart
    rw [hymd]
    simp only
    omega

section Month

variable {year m : Nat}

theorem monthEnd_eq (hyear : 1 ≤ year) (hfirst : 1 ≤ m) (hlast : m ≤ 12) :
    monthEnd ((Day.daysBeforeYear year + Day.preceding (Day.isLeap year) m + 1 : Nat) : Int) =
      Day.daysBeforeYear year + Day.preceding (Day.isLeap year) (m + 1) := by
  have hlt : Day.preceding (Day.isLeap year) m < Day.preceding (Day.isLeap year) (m + 1) :=
    Day.preceding_mono _ (m + 1) (by omega) m (by omega) hfirst
  have hymd := Day.toYmd_of_month hyear hfirst hlast (Nat.le_refl _) hlt
  have hdays : ∀ leap : Bool, ∀ m < 13, 1 ≤ m →
      Day.daysBeforeMonth m + (if 2 < m && leap then 1 else 0) +
          (Day.daysBeforeMonth (m + 1) - Day.daysBeforeMonth m +
            if m = 2 && leap then 1 else 0) =
        Day.preceding leap (m + 1) := by decide
  have hEq := hdays (Day.isLeap year) m (by omega) hfirst
  unfold monthEnd Day.year Day.month
  rw [hymd]
  unfold Day.ofYmd daysInMonth
  simp only
  rw [← hEq]
  push_cast
  omega

end Month

theorem le_monthEnd {day : Int} (hday : 1 ≤ day) : day ≤ monthEnd (monthStart day) := by
  obtain ⟨year, r, hyear, hr, hn⟩ := Day.exists_year (day - 1).toNat
  have hEq : day = ((Day.daysBeforeYear year + r + 1 : Nat) : Int) := by omega
  have hymd := Day.toYmd_of_year hyear hr
  rw [← hEq] at hymd
  rw [Day.leapDays_eq] at hr
  have hleap : (Day.isLeap year).toNat ≤ 1 := Bool.toNat_le _
  obtain ⟨hfirst, hlast, hle, _⟩ := Day.monthOfDay_start (Day.isLeap year) r (by omega)
  have hend := Day.monthOfDay_end (Day.isLeap year) r hr
  have hstart : monthStart day = ((Day.daysBeforeYear year +
      Day.preceding (Day.isLeap year) (Day.monthOfDay (Day.isLeap year) r) + 1 : Nat) : Int) := by
    unfold monthStart
    rw [hymd]
    simp only
    omega
  rw [hstart, monthEnd_eq hyear hfirst hlast]
  omega

/-- A month lasts to the day before the next one, and its days start in it. -/
theorem IsMonth.days {month : Int} (h : IsMonth month) :
    1 ≤ month ∧ month ≤ monthEnd month ∧ IsMonth (monthEnd month + 1) ∧
      ∀ day, month ≤ day → day ≤ monthEnd month → monthStart day = month := by
  obtain ⟨year, m, hyear, hfirst, hlast, rfl⟩ := h
  have hlt : Day.preceding (Day.isLeap year) m < Day.preceding (Day.isLeap year) (m + 1) :=
    Day.preceding_mono _ (m + 1) (by omega) m (by omega) hfirst
  rw [monthEnd_eq hyear hfirst hlast]
  refine ⟨by omega, by omega, ?_, ?_⟩
  · rcases Nat.lt_or_eq_of_le hlast with hearly | rfl
    · exact ⟨year, m + 1, hyear, by omega, by omega, by push_cast; rfl⟩
    · -- December is followed by the January of the next year
      refine ⟨year + 1, 1, by omega, Nat.le_refl 1, by decide, ?_⟩
      have hwhole : ∀ leap : Bool, Day.preceding leap 13 = 365 + leap.toNat ∧
          Day.preceding leap 1 = 0 := by decide
      rw [Day.daysBeforeYear_succ hyear, Day.leapDays_eq, (hwhole (Day.isLeap year)).1,
        (hwhole (Day.isLeap (year + 1))).2]
      push_cast
      omega
  · intro day hle hge
    obtain ⟨r, rfl⟩ : ∃ r : Nat, day = ((Day.daysBeforeYear year + r + 1 : Nat) : Int) :=
      ⟨(day - Day.daysBeforeYear year - 1).toNat, by omega⟩
    have hymd := Day.toYmd_of_month (r := r) hyear hfirst hlast (by omega) (by omega)
    unfold monthStart
    rw [hymd]
    simp only
    omega

/-! ## The latest gapless stretch -/

section Contiguous

variable {α : Type} (monthOf : α → Int)

/-- One round of the loop: a gap starts the stretch again. -/
def contiguousStep (stretch : List α) (entry : α) : List α :=
  match stretch.getLast? with
  | none => [entry]
  | some last =>
      if monthOf entry = shiftMonth (monthOf last) 1 then stretch ++ [entry] else [entry]

def contiguous (entries : List α) : List α := entries.foldl (contiguousStep monthOf) []

/-- Each month is followed by the next one. -/
def Gapless (entries : List α) : Prop :=
  entries.IsChain fun entry next => monthOf next = shiftMonth (monthOf entry) 1

variable {monthOf}

theorem gapless_contiguousStep {stretch : List α} (h : Gapless monthOf stretch) (entry : α) :
    Gapless monthOf (contiguousStep monthOf stretch entry) := by
  unfold contiguousStep
  cases hlast : stretch.getLast? with
  | none => exact List.IsChain.singleton entry
  | some last =>
      simp only
      split
      · next hnext =>
          refine List.isChain_append.2 ⟨h, List.IsChain.singleton entry, ?_⟩
          intro x hx y hy
          rw [hlast] at hx
          cases hx
          cases hy
          exact hnext
      · exact List.IsChain.singleton entry

/-- Whatever the entries, what the loop keeps has no gap. -/
theorem gapless_contiguous (entries : List α) : Gapless monthOf (contiguous monthOf entries) := by
  have hloop : ∀ stretch, Gapless monthOf stretch →
      Gapless monthOf (entries.foldl (contiguousStep monthOf) stretch) := by
    induction entries with
    | nil => exact fun _ h => h
    | cons entry rest ih => exact fun stretch h => ih _ (gapless_contiguousStep h entry)
  exact hloop [] List.IsChain.nil

theorem mem_contiguousStep {stretch : List α} {entry x : α}
    (h : x ∈ contiguousStep monthOf stretch entry) : x ∈ stretch ∨ x = entry := by
  unfold contiguousStep at h
  split at h
  · exact Or.inr (List.mem_singleton.1 h)
  · split at h
    · rcases List.mem_append.1 h with hold | hnew
      · exact Or.inl hold
      · exact Or.inr (List.mem_singleton.1 hnew)
    · exact Or.inr (List.mem_singleton.1 h)

/-- The loop makes nothing up. -/
theorem mem_of_mem_contiguous {entries : List α} {x : α} (h : x ∈ contiguous monthOf entries) :
    x ∈ entries := by
  have hloop : ∀ stretch, x ∈ entries.foldl (contiguousStep monthOf) stretch →
      x ∈ stretch ∨ x ∈ entries := by
    clear h
    induction entries with
    | nil => exact fun _ hx => Or.inl hx
    | cons entry rest ih =>
        intro stretch hx
        rcases ih (contiguousStep monthOf stretch entry) hx with hstretch | hrest
        · rcases mem_contiguousStep hstretch with hold | hnew
          · exact Or.inl hold
          · exact Or.inr (hnew ▸ List.mem_cons_self)
        · exact Or.inr (List.mem_cons_of_mem entry hrest)
  rcases hloop [] h with hnil | hmem
  · cases hnil
  · exact hmem

end Contiguous

/-! ## Monthly rows -/

section Rows

variable {D F : Type}

/-- The entries a month's revision is the digest of. -/
structure MonthEntry where
  id : Nat
  day : Int
  customerKey : String
  segment : Segment
  revenue : Int
  deriving DecidableEq, Repr

/-- `month_revision` -/
def monthRevision (digest : List MonthEntry → D) (snapshot : SalesSnapshot D) (month : Int) : D :=
  digest ((snapshot.sales.filter fun sale => decide (monthStart sale.day = month)).map fun sale =>
    { id := sale.id
      day := sale.day
      customerKey := sale.customerKey
      segment := sale.segment
      revenue := sale.revenue })

/-- A completed month and its regular revenue. -/
structure MonthRow (F : Type) where
  month : Int
  revenue : F
  deriving DecidableEq, Repr

/-- The months in which regular sales are recorded before the month of the cutoff. -/
def observedMonths (snapshot : SalesSnapshot D) : List Int :=
  ((snapshot.sales.filter fun sale => decide (sale.segment = .regular)).map fun sale =>
    monthStart sale.day).filter fun month => decide (month < monthStart snapshot.asOf)

/-- The regular revenue of a month. -/
def regularRevenue (snapshot : SalesSnapshot D) (month : Int) : Int :=
  ((snapshot.sales.filter fun sale =>
    decide (sale.segment = .regular) && decide (monthStart sale.day = month)).map
      RecordedSale.revenue).sum

def monthlyRows (A : Arithmetic F) (snapshot : SalesSnapshot D) (confirmedZeroMonths : List Int) :
    List (MonthRow F) :=
  let months := (observedMonths snapshot ++ confirmedZeroMonths.filter fun month =>
    decide (month < monthStart snapshot.asOf)).dedup
  contiguous MonthRow.month ((months.mergeSort fun m m' => decide (m ≤ m')).map fun month =>
    { month := month
      revenue := A.ofCents (regularRevenue snapshot month) })

end Rows

end Forecasting
end RosarioDairy
