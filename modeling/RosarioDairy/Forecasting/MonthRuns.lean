import RosarioDairy.Foundations.Spans
import RosarioDairy.Forecasting.Prospective

/-!
# MonthRuns — months and weeks as periods, and the latest run of months

The months and the weeks of the calendar follow one another, and the loop that starts again at every gap
keeps, of months in order, the latest run.
-/

namespace RosarioDairy
namespace Forecasting

open Foundations

/-! ## Months -/

/-- The month after a month starts on the day after its last day. -/
theorem IsMonth.shiftMonth {month : Int} (h : IsMonth month) :
    Forecasting.shiftMonth month 1 = monthEnd month + 1 := by
  obtain ⟨year, m, hyear, hfirst, hlast, rfl⟩ := h
  have hlt : Day.preceding (Day.isLeap year) m < Day.preceding (Day.isLeap year) (m + 1) :=
    Day.preceding_mono _ (m + 1) (by omega) m (by omega) hfirst
  have hymd := Day.toYmd_of_month hyear hfirst hlast (Nat.le_refl _) hlt
  have hyearEq : Day.year ((Day.daysBeforeYear year + Day.preceding (Day.isLeap year) m + 1 : Nat) :
      Int) = year := congrArg YearMonthDay.year hymd
  have hmonthEq : Day.month ((Day.daysBeforeYear year + Day.preceding (Day.isLeap year) m + 1 : Nat) :
      Int) = m := congrArg YearMonthDay.month hymd
  have hshift := shiftMonth_eq (hmonthEq.symm ▸ hfirst) 1
  rw [hyearEq, hmonthEq, Day.ofYmd_first] at hshift
  rw [monthEnd_eq hyear hfirst hlast]
  rcases Nat.lt_or_eq_of_le hlast with hearly | rfl
  · have hdiv : (year * 12 + (m - 1) + 1) / 12 = year := by omega
    have hmod : (year * 12 + (m - 1) + 1) % 12 + 1 = m + 1 := by omega
    rw [hdiv, hmod] at hshift
    exact_mod_cast hshift
  · -- December is followed by the January of the next year
    have hdiv : (year * 12 + (12 - 1) + 1) / 12 = year + 1 := by omega
    have hmod : (year * 12 + (12 - 1) + 1) % 12 + 1 = 1 := by omega
    have hwhole : ∀ leap : Bool, Day.preceding leap 13 = 365 + leap.toNat ∧
        Day.preceding leap 1 = 0 := by decide
    rw [hdiv, hmod, Day.daysBeforeYear_succ hyear, Day.leapDays_eq,
      (hwhole (Day.isLeap (year + 1))).2] at hshift
    rw [(hwhole (Day.isLeap year)).1]
    push_cast at hshift ⊢
    omega

theorem IsMonth.monthStart_eq {month : Int} (h : IsMonth month) : monthStart month = month :=
  h.days.2.2.2 month le_rfl h.days.2.1

/-- The months of the calendar. -/
def months : Periods :=
  { IsStart := IsMonth
    next := fun month => shiftMonth month 1
    isStart_next := by
      intro month h
      rw [h.shiftMonth]
      exact h.days.2.2.1
    lt_next := by
      intro month h
      rw [h.shiftMonth]
      exact Int.lt_add_one_iff.2 h.days.2.1
    next_le := by
      intro month later h hlater hlt
      rw [h.shiftMonth]
      by_contra hge
      have hsame := h.days.2.2.2 later hlt.le (by omega)
      rw [hlater.monthStart_eq] at hsame
      omega }

/-! ## Weeks -/

/-- The weeks from Monday to Sunday. -/
def weeks : Periods :=
  { IsStart := fun day => weekday day = 0
    next := fun day => day + 7
    isStart_next := by
      intro day h
      unfold weekday at *
      omega
    lt_next := by
      intro day _
      omega
    next_le := by
      intro day later h hlater hlt
      unfold weekday at *
      omega }

/-! ## The latest run -/

section Contiguous

variable {α : Type}

theorem getLast?_contiguousStep (monthOf : α → Int) (stretch : List α) (entry : α) :
    (contiguousStep monthOf stretch entry).getLast? = some entry := by
  unfold contiguousStep
  split
  · rfl
  · split
    · exact List.getLast?_concat
    · rfl

theorem contiguous_concat (monthOf : α → Int) (entries : List α) (entry : α) :
    contiguous monthOf (entries ++ [entry]) =
      contiguousStep monthOf (contiguous monthOf entries) entry := by
  rw [contiguous, List.foldl_append]
  rfl

/-- The stretch ends with the last of the entries. -/
theorem getLast?_contiguous (monthOf : α → Int) (entries : List α) :
    (contiguous monthOf entries).getLast? = entries.getLast? := by
  induction entries using List.reverseRecOn with
  | nil => rfl
  | append_singleton entries entry _ =>
      rw [contiguous_concat, getLast?_contiguousStep, List.getLast?_concat]

theorem contiguousStep_map {β : Type} (monthOf : β → Int) (f : α → β) (stretch : List α) (entry : α) :
    contiguousStep monthOf (stretch.map f) (f entry) =
      (contiguousStep (monthOf ∘ f) stretch entry).map f := by
  unfold contiguousStep
  rw [List.getLast?_map]
  cases stretch.getLast? with
  | none => rfl
  | some last =>
      simp only [Option.map_some, Function.comp_apply]
      split
      · rw [List.map_append]
        rfl
      · rfl

/-- Only the months of the entries matter. -/
theorem contiguous_map {β : Type} (monthOf : β → Int) (f : α → β) (entries : List α) :
    contiguous monthOf (entries.map f) = (contiguous (monthOf ∘ f) entries).map f := by
  induction entries using List.reverseRecOn with
  | nil => rfl
  | append_singleton entries entry ih =>
      rw [List.map_append, List.map_singleton, contiguous_concat, contiguous_concat, ih,
        contiguousStep_map]

end Contiguous

theorem le_getLast {starts : List Int} (hsorted : starts.Pairwise (· < ·)) {last : Int}
    (hlast : starts.getLast? = some last) : ∀ start ∈ starts, start ≤ last := by
  intro start hstart
  obtain ⟨init, rfl⟩ := List.getLast?_eq_some_iff.1 hlast
  rcases List.mem_append.1 hstart with hstart | hstart
  · exact ((List.pairwise_append.1 hsorted).2.2 start hstart last (List.mem_singleton_self last)).le
  · exact (List.mem_singleton.1 hstart).le

/-- Of months in order, the loop keeps the latest run, in order. -/
theorem contiguous_sorted {starts : List Int} (hstarts : ∀ start ∈ starts, IsMonth start)
    (hsorted : starts.Pairwise (· < ·)) :
    (contiguous id starts).Pairwise (· < ·) ∧
      ∀ month, month ∈ contiguous id starts ↔ months.InLatestRun starts month := by
  induction starts using List.reverseRecOn with
  | nil =>
      refine ⟨List.Pairwise.nil, fun month => iff_of_false List.not_mem_nil ?_⟩
      exact fun h => List.not_mem_nil h.1
  | append_singleton starts last ih =>
      obtain ⟨hinit, _, hlast⟩ := List.pairwise_append.1 hsorted
      have hlt : ∀ start ∈ starts, start < last := fun start hstart =>
        hlast start hstart last (List.mem_singleton_self last)
      have hmonths : ∀ start ∈ starts, IsMonth start := fun start hstart =>
        hstarts start (List.mem_append_left _ hstart)
      have hlastMonth : IsMonth last := hstarts last (List.mem_append_right _ (List.mem_singleton_self _))
      obtain ⟨hrun, hmem⟩ := ih hmonths hinit
      -- the run ends where the list ends
      have hend := getLast?_contiguous id starts
      rw [contiguous_concat]
      unfold contiguousStep
      -- a list without a last month is empty
      cases hprevious : (contiguous id starts).getLast? with
      | none =>
          rw [hprevious] at hend
          rw [List.getLast?_eq_none_iff.1 hend.symm]
          refine ⟨List.pairwise_singleton _ _, fun month => ?_⟩
          simp only [List.nil_append, List.mem_singleton, Periods.InLatestRun]
          constructor
          · rintro rfl
            refine ⟨rfl, ?_⟩
            rintro later _ hle ⟨start, rfl, hup⟩
            exact le_antisymm hup hle
          · exact fun h => h.1
      | some previous =>
          rw [hprevious] at hend
          have hpreviousMem : previous ∈ starts := List.mem_of_getLast? hend.symm
          -- the previous last month is the greatest before this one
          have hmax : ∀ start ∈ starts, start ≤ previous := le_getLast hinit hend.symm
          have hall : ∀ month ∈ contiguous id starts, month ∈ starts := fun month hmonth =>
            ((hmem month).1 hmonth).1
          simp only [id]
          -- the next month prolongs the run; any other one starts it again
          by_cases hnext : last = shiftMonth previous 1
          · rw [if_pos hnext, hnext]
            refine ⟨List.pairwise_append.2 ⟨hrun, List.pairwise_singleton _ _, ?_⟩, fun month => ?_⟩
            · intro month hmonth later hlater
              rw [List.mem_singleton.1 hlater, ← hnext]
              exact hlt month (hall month hmonth)
            · rw [List.mem_append, List.mem_singleton, hmem]
              exact (Periods.inLatestRun_concat_next hmonths hpreviousMem hmax).symm
          · rw [if_neg hnext]
            refine ⟨List.pairwise_singleton _ _, fun month => ?_⟩
            rw [List.mem_singleton]
            exact (Periods.inLatestRun_concat_gap hmonths hpreviousMem hmax hlastMonth
              (hlt previous hpreviousMem) hnext).symm

end Forecasting
end RosarioDairy
