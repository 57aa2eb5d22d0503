import Mathlib.Tactic.FieldSimp
import Mathlib.Tactic.Linarith
import Mathlib.Tactic.NormNum
import Mathlib.Tactic.Positivity
import Mathlib.Tactic.Ring
import RosarioDairy.Forecasting.Data
import RosarioDairy.Foundations.Rounding

/-!
# Decimal rounding — exact results and error bounds of the decimal context

A context result is the nearest multiple of the unit of its 28th digit.  Numbers of at most 28 digits
are results themselves; the others move by at most half a unit, a relative error below `10 ^ (-27)`.
-/

namespace RosarioDairy
namespace Forecasting

/-! ## Rounding to integers -/

/-- The only integer that is less than half a unit away. -/
theorem roundHalfUp_eq {q : ℚ} {n : Int} (h : |q - n| < 1 / 2) : roundHalfUp q = n := by
  rw [abs_lt] at h
  unfold roundHalfUp
  by_cases hq : 0 ≤ q
  · rw [if_pos hq, Int.floor_eq_iff]
    constructor
    · linarith
    · linarith
  · rw [if_neg hq, neg_eq_iff_eq_neg, Int.floor_eq_iff, Int.cast_neg]
    constructor
    · linarith
    · linarith

theorem roundHalfUp_le {q : ℚ} {n : Int} (h : q ≤ n) : roundHalfUp q ≤ n := by
  unfold roundHalfUp
  by_cases hq : 0 ≤ q
  · rw [if_pos hq]
    refine Int.lt_add_one_iff.1 (Int.floor_lt.2 ?_)
    push_cast
    linarith
  · rw [if_neg hq]
    refine neg_le.1 (Int.le_floor.2 ?_)
    push_cast
    linarith

theorem le_roundHalfUp {q : ℚ} {n : Int} (h : (n : ℚ) ≤ q) : n ≤ roundHalfUp q := by
  unfold roundHalfUp
  by_cases hq : 0 ≤ q
  · rw [if_pos hq]
    refine Int.le_floor.2 ?_
    linarith
  · rw [if_neg hq]
    refine le_neg.1 (Int.lt_add_one_iff.1 (Int.floor_lt.2 ?_))
    push_cast
    linarith

theorem roundHalfEven_eq (q : ℚ) : roundHalfEven q = Foundations.roundEven q := rfl

/-! ## Ties -/

/-- Half a unit beyond an even integer, seen from zero: where the two modes part. -/
def evenTie (q : ℚ) : Prop := ∃ n : Nat, |q| = 2 * n + 1 / 2

/-- The modes agree away from the ties. -/
theorem roundHalfUp_eq_roundHalfEven {q : ℚ} (h : q - ⌊q⌋ ≠ 1 / 2) :
    roundHalfUp q = roundHalfEven q := by
  have hlow := Int.floor_le q
  have hhigh := Int.lt_floor_add_one q
  rw [roundHalfEven_eq]
  rcases Foundations.roundEven_cases q with ⟨heven, hpart⟩ | ⟨heven, hpart⟩ | ⟨_, hpart⟩
  · rw [heven]
    apply roundHalfUp_eq
    rw [abs_of_nonneg (sub_nonneg.2 hlow)]
    exact hpart
  · rw [heven]
    apply roundHalfUp_eq
    rw [abs_lt]
    push_cast
    constructor
    · linarith
    · linarith
  · exact absurd hpart h

/-- A tie goes away from zero in the one mode and to the even neighbour in the other. -/
theorem rounds_of_tie {q : ℚ} (h : q - ⌊q⌋ = 1 / 2) :
    roundHalfUp q = (if 0 ≤ q then ⌊q⌋ + 1 else ⌊q⌋) ∧ roundHalfEven q = ⌊q⌋ + ⌊q⌋ % 2 := by
  constructor
  · unfold roundHalfUp
    by_cases hq : 0 ≤ q
    · rw [if_pos hq, if_pos hq, Int.floor_eq_iff]
      push_cast
      constructor
      · linarith
      · linarith
    · rw [if_neg hq, if_neg hq, neg_eq_iff_eq_neg, Int.floor_eq_iff]
      push_cast
      constructor
      · linarith
      · linarith
  · rw [roundHalfEven_eq]
    rcases Foundations.roundEven_cases q with ⟨_, hpart⟩ | ⟨_, hpart⟩ | ⟨heven, _⟩
    · exact absurd h (ne_of_lt hpart)
    · exact absurd h (ne_of_gt hpart)
    · exact heven

theorem evenTie_iff {q : ℚ} :
    evenTie q ↔ q - ⌊q⌋ = 1 / 2 ∧ ⌊q⌋ % 2 = if 0 ≤ q then 0 else 1 := by
  constructor
  · rintro ⟨n, hn⟩
    by_cases hq : 0 ≤ q
    · rw [abs_of_nonneg hq] at hn
      -- a tie of a number at or above zero: half above its floor
      have hfloor : ⌊q⌋ = 2 * n := by
        rw [Int.floor_eq_iff]
        push_cast
        constructor
        · linarith
        · linarith
      rw [if_pos hq, hfloor]
      push_cast
      exact ⟨by linarith, by omega⟩
    · rw [abs_of_neg (not_le.1 hq)] at hn
      -- below zero the floor is the odd neighbour of the tie
      have hfloor : ⌊q⌋ = -2 * n - 1 := by
        rw [Int.floor_eq_iff]
        push_cast
        constructor
        · linarith
        · linarith
      rw [if_neg hq, hfloor]
      push_cast
      exact ⟨by linarith, by omega⟩
  · rintro ⟨hpart, hparity⟩
    -- the floor is split by its parity, and the half is added back
    have hdiv : ((⌊q⌋ / 2 : Int) : ℚ) * 2 + ((⌊q⌋ % 2 : Int) : ℚ) = ⌊q⌋ := by
      exact_mod_cast Int.ediv_mul_add_emod ⌊q⌋ 2
    by_cases hq : 0 ≤ q
    · rw [if_pos hq] at hparity
      have hpos : 0 ≤ ⌊q⌋ / 2 := Int.ediv_nonneg (Int.floor_nonneg.2 hq) (by decide)
      obtain ⟨n, hn⟩ := Int.eq_ofNat_of_zero_le hpos
      refine ⟨n, ?_⟩
      rw [hparity, hn] at hdiv
      push_cast at hdiv
      rw [abs_of_nonneg hq]
      linarith
    · rw [if_neg hq] at hparity
      have hneg : ⌊q⌋ < 0 := Int.floor_lt.2 (by simpa using not_le.1 hq)
      have hpos : 0 ≤ -(⌊q⌋ / 2) - 1 := by omega
      obtain ⟨n, hn⟩ := Int.eq_ofNat_of_zero_le hpos
      have hhalf : ⌊q⌋ / 2 = -n - 1 := by linarith
      refine ⟨n, ?_⟩
      rw [hparity, hhalf] at hdiv
      push_cast at hdiv
      rw [abs_of_neg (not_le.1 hq)]
      linarith

theorem roundings_agree {q : ℚ} (h : ¬evenTie q) : roundHalfUp q = roundHalfEven q := by
  by_cases hpart : q - ⌊q⌋ = 1 / 2
  · obtain ⟨hup, heven⟩ := rounds_of_tie hpart
    have hparity : ¬⌊q⌋ % 2 = if 0 ≤ q then 0 else 1 := fun hEq => h (evenTie_iff.2 ⟨hpart, hEq⟩)
    rw [hup, heven]
    by_cases hq : 0 ≤ q
    · rw [if_pos hq] at hparity ⊢
      omega
    · rw [if_neg hq] at hparity ⊢
      omega
  · exact roundHalfUp_eq_roundHalfEven hpart

/-- The two neighbours of an even tie are the results of the two modes. -/
theorem roundings_of_evenTie {q : ℚ} (h : evenTie q) : ∃ n : Int, q = n + 1 / 2 ∧
    ((roundHalfUp q = n + 1 ∧ roundHalfEven q = n ∧ 0 ≤ n ∧ n % 2 = 0) ∨
      (roundHalfUp q = n ∧ roundHalfEven q = n + 1 ∧ n < 0 ∧ n % 2 = 1)) := by
  obtain ⟨hpart, hparity⟩ := evenTie_iff.1 h
  obtain ⟨hup, heven⟩ := rounds_of_tie hpart
  refine ⟨⌊q⌋, by linarith, ?_⟩
  by_cases hq : 0 ≤ q
  · rw [if_pos hq] at hup hparity
    rw [hparity, Int.add_zero] at heven
    exact Or.inl ⟨hup, heven, Int.floor_nonneg.2 hq, hparity⟩
  · rw [if_neg hq] at hup hparity
    rw [hparity] at heven
    exact Or.inr ⟨hup, heven, Int.floor_lt.2 (by simpa using not_le.1 hq), hparity⟩

/-! ## The leading digit -/

theorem abs_eq_div (q : ℚ) : |q| = (q.num.natAbs : ℚ) / q.den := by
  rw [Rat.abs_def, Rat.divInt_eq_div]
  simp

/-- The leading digit of a number stands at the power of ten that starts its decade. -/
theorem leadingExponent_le {q : ℚ} (hq : q ≠ 0) : (10 : ℚ) ^ leadingExponent q ≤ |q| := by
  have hnum : q.num.natAbs ≠ 0 := by
    rw [Int.natAbs_ne_zero]
    exact Rat.num_ne_zero.2 hq
  have hten : (10 : ℚ) ≠ 0 := by norm_num
  unfold leadingExponent
  by_cases h : (10 : ℚ) ^ ((Nat.log 10 q.num.natAbs : Int) - Nat.log 10 q.den) ≤ |q|
  · simp only [h, if_true]
  · simp only [h, if_false]
    -- the estimate is one too high at most: numerator above its power, denominator below the next
    have hlow : ((10 : ℚ) ^ Nat.log 10 q.num.natAbs) ≤ q.num.natAbs := by
      exact_mod_cast Nat.pow_log_le_self 10 hnum
    have hhigh : (q.den : ℚ) ≤ (10 : ℚ) ^ (Nat.log 10 q.den + 1) := by
      exact_mod_cast (Nat.lt_pow_succ_log_self (by decide) q.den).le
    have hden : (0 : ℚ) < q.den := by exact_mod_cast q.den_pos
    rw [abs_eq_div, le_div_iff₀ hden, sub_sub, zpow_sub₀ hten, div_mul_eq_mul_div,
      div_le_iff₀ (zpow_pos (by norm_num) _)]
    have hpow : (10 : ℚ) ^ ((Nat.log 10 q.den : Int) + 1) = 10 ^ (Nat.log 10 q.den + 1) := by
      exact_mod_cast zpow_natCast (10 : ℚ) (Nat.log 10 q.den + 1)
    rw [hpow, zpow_natCast]
    exact mul_le_mul hlow hhigh hden.le (by positivity)

/-! ## The decimal context -/

/-- The unit of the last digit of a context result. -/
def lastUnit (q : ℚ) : ℚ := (10 : ℚ) ^ (leadingExponent q - 27)

theorem lastUnit_pos (q : ℚ) : 0 < lastUnit q := zpow_pos (by norm_num) _

theorem decimalContext_of_ne_zero {q : ℚ} (hq : q ≠ 0) :
    decimalContext q = roundHalfEven (q / lastUnit q) * lastUnit q := by
  simp [decimalContext, hq, lastUnit]

theorem decimalContext_zero : decimalContext 0 = 0 := if_pos rfl

/-- The unit is small against the number. -/
theorem lastUnit_le {q : ℚ} (hq : q ≠ 0) : lastUnit q ≤ |q| / 10 ^ 27 := by
  have h := leadingExponent_le hq
  rw [lastUnit, zpow_sub₀ (by norm_num)]
  exact div_le_div_of_nonneg_right h (by positivity)

/-- The relative error of a context result. -/
theorem decimalContext_close (q : ℚ) : |decimalContext q - q| ≤ |q| / (2 * 10 ^ 27) := by
  by_cases hq : q = 0
  · simp [hq, decimalContext_zero]
  · have hpos := lastUnit_pos q
    have hclose := Foundations.roundEven_close (q / lastUnit q)
    rw [← roundHalfEven_eq] at hclose
    have hsplit : decimalContext q - q =
        (roundHalfEven (q / lastUnit q) - q / lastUnit q) * lastUnit q := by
      rw [decimalContext_of_ne_zero hq]
      field_simp
    calc |decimalContext q - q|
        = |(roundHalfEven (q / lastUnit q) : ℚ) - q / lastUnit q| * lastUnit q := by
          rw [hsplit, abs_mul, abs_of_pos hpos]
      _ ≤ 1 / 2 * lastUnit q := mul_le_mul_of_nonneg_right hclose hpos.le
      _ ≤ 1 / 2 * (|q| / 10 ^ 27) := mul_le_mul_of_nonneg_left (lastUnit_le hq) (by norm_num)
      _ = |q| / (2 * 10 ^ 27) := by ring

/-- Numbers of at most 28 digits are exact. -/
theorem decimalContext_exact {m : Int} (places : Nat) (hm : |m| < 10 ^ 28) :
    decimalContext ((m : ℚ) / 10 ^ places) = (m : ℚ) / 10 ^ places := by
  by_cases hzero : m = 0
  · simp [hzero, decimalContext_zero]
  · have hq : (m : ℚ) / 10 ^ places ≠ 0 := by
      have hcast : (m : ℚ) ≠ 0 := by exact_mod_cast hzero
      positivity
    have hten : (10 : ℚ) ≠ 0 := by norm_num
    -- the last digit of the number is at its last place or before it
    have hbelow : (10 : ℚ) ^ leadingExponent ((m : ℚ) / 10 ^ places) <
        (10 : ℚ) ^ (28 - (places : Int)) := by
      refine lt_of_le_of_lt (leadingExponent_le hq) ?_
      rw [abs_div, abs_of_pos (by positivity : (0 : ℚ) < 10 ^ places), zpow_sub₀ hten,
        zpow_natCast]
      apply div_lt_div_of_pos_right _ (by positivity)
      exact_mod_cast hm
    have hexponent := (zpow_lt_zpow_iff_right₀ (by norm_num : (1 : ℚ) < 10)).1 hbelow
    obtain ⟨k, hk⟩ := Int.eq_ofNat_of_zero_le
      (by omega : 0 ≤ 27 - (places : Int) - leadingExponent ((m : ℚ) / 10 ^ places))
    have hmultiple : (m : ℚ) / 10 ^ places / lastUnit ((m : ℚ) / 10 ^ places) =
        ((m * 10 ^ k : Int) : ℚ) := by
      have hunit : lastUnit ((m : ℚ) / 10 ^ places) = (10 : ℚ) ^ (-((k : Int) + places)) := by
        unfold lastUnit
        congr 1
        have hk' : 27 - (places : Int) - leadingExponent ((m : ℚ) / 10 ^ places) = (k : Int) := hk
        omega
      rw [hunit, zpow_neg, div_inv_eq_mul, zpow_add₀ hten, zpow_natCast, zpow_natCast]
      push_cast
      field_simp
    rw [decimalContext_of_ne_zero hq, hmultiple, roundHalfEven_eq,
      Foundations.roundEven_intCast, ← hmultiple]
    exact div_mul_cancel₀ _ (lastUnit_pos _).ne'

end Forecasting
end RosarioDairy
