import Mathlib.Data.Rat.Floor
import Mathlib.Tactic.Linarith

/-!
# Rounding — the nearest integer, ties to the even one

What every rounding to a grid of numbers goes through: it is monotone, keeps integers, and moves a
number by half a unit at most.
-/

namespace RosarioDairy
namespace Foundations

/-- The nearest integer, ties to the even one. -/
def roundEven (q : ℚ) : Int :=
  let below := ⌊q⌋
  if q - below < 1 / 2 then below
  else if 1 / 2 < q - below then below + 1
  else if below % 2 = 0 then below
  else below + 1

theorem roundEven_intCast (n : Int) : roundEven (n : ℚ) = n := by
  simp [roundEven]

/-- The three ways in which a number is rounded. -/
theorem roundEven_cases (q : ℚ) :
    (roundEven q = ⌊q⌋ ∧ q - ⌊q⌋ < 1 / 2) ∨ (roundEven q = ⌊q⌋ + 1 ∧ 1 / 2 < q - ⌊q⌋) ∨
      (roundEven q = ⌊q⌋ + ⌊q⌋ % 2 ∧ q - ⌊q⌋ = 1 / 2) := by
  unfold roundEven
  by_cases hbelow : q - ⌊q⌋ < 1 / 2
  · exact Or.inl ⟨by simp only [hbelow, if_true], hbelow⟩
  · by_cases habove : 1 / 2 < q - ⌊q⌋
    · exact Or.inr (Or.inl ⟨by simp only [hbelow, habove, if_true, if_false], habove⟩)
    · refine Or.inr (Or.inr ⟨?_, le_antisymm (not_lt.1 habove) (not_lt.1 hbelow)⟩)
      by_cases heven : ⌊q⌋ % 2 = 0
      · simp only [hbelow, habove, heven, if_true, if_false, Int.add_zero]
      · have hone : ⌊q⌋ % 2 = 1 := by omega
        simp only [hbelow, habove, hone, if_false, Int.one_ne_zero]

theorem roundEven_bounds (q : ℚ) : ⌊q⌋ ≤ roundEven q ∧ roundEven q ≤ ⌊q⌋ + 1 := by
  rcases roundEven_cases q with ⟨h, _⟩ | ⟨h, _⟩ | ⟨h, _⟩
  · omega
  · omega
  · omega

/-- Rounding moves a number by half a unit at most. -/
theorem roundEven_close (q : ℚ) : |(roundEven q : ℚ) - q| ≤ 1 / 2 := by
  have hlow := Int.floor_le q
  have hhigh := Int.lt_floor_add_one q
  rw [abs_le]
  rcases roundEven_cases q with ⟨h, hf⟩ | ⟨h, hf⟩ | ⟨h, hf⟩
  · rw [h]
    constructor
    · linarith
    · linarith
  · rw [h, Int.cast_add, Int.cast_one]
    constructor
    · linarith
    · linarith
  · have hparity : ⌊q⌋ % 2 = 0 ∨ ⌊q⌋ % 2 = 1 := by omega
    rcases hparity with hzero | hone
    · rw [h, hzero, Int.add_zero]
      constructor
      · linarith
      · linarith
    · rw [h, hone, Int.cast_add, Int.cast_one]
      constructor
      · linarith
      · linarith

theorem roundEven_mono {a b : ℚ} (h : a ≤ b) : roundEven a ≤ roundEven b := by
  have ha := roundEven_bounds a
  have hb := roundEven_bounds b
  have hfloor : ⌊a⌋ ≤ ⌊b⌋ := Int.floor_le_floor h
  by_cases hlt : ⌊a⌋ < ⌊b⌋
  · omega
  · have hEq : ⌊a⌋ = ⌊b⌋ := by omega
    -- in one unit interval the results follow the fractions
    have hfraction : a - ⌊a⌋ ≤ b - ⌊b⌋ := by
      rw [hEq]
      linarith
    rcases roundEven_cases a with ⟨hra, hfa⟩ | ⟨hra, hfa⟩ | ⟨hra, hfa⟩
    · omega
    · rcases roundEven_cases b with ⟨_, hfb⟩ | ⟨hrb, _⟩ | ⟨_, hfb⟩
      · linarith
      · omega
      · linarith
    · rcases roundEven_cases b with ⟨_, hfb⟩ | ⟨hrb, _⟩ | ⟨hrb, _⟩
      · linarith
      · omega
      · rw [hra, hrb, hEq]

theorem roundEven_le {q : ℚ} {n : Int} (h : q ≤ n) : roundEven q ≤ n :=
  (roundEven_mono h).trans_eq (roundEven_intCast n)

theorem le_roundEven {q : ℚ} {n : Int} (h : (n : ℚ) ≤ q) : n ≤ roundEven q :=
  (roundEven_intCast n).symm.trans_le (roundEven_mono h)

/-- Below the middle of two integers. -/
theorem roundEven_le_of_lt_half {q : ℚ} {n : Int} (h : q < n + 1 / 2) : roundEven q ≤ n := by
  have hbounds := roundEven_bounds q
  have hfloor : ⌊q⌋ ≤ n := by
    have hlt : q < ((n + 1 : Int) : ℚ) := by
      push_cast
      linarith
    have := Int.floor_lt.2 hlt
    omega
  by_cases hlt : ⌊q⌋ < n
  · omega
  · have hEq : ⌊q⌋ = n := by omega
    rcases roundEven_cases q with ⟨hr, _⟩ | ⟨_, hf⟩ | ⟨_, hf⟩
    · omega
    · rw [hEq] at hf
      linarith
    · rw [hEq] at hf
      linarith

/-- The middle above an odd integer goes up. -/
theorem roundEven_half_of_odd {n : Int} (hodd : n % 2 = 1) : roundEven ((n : ℚ) + 1 / 2) = n + 1 := by
  have hfloor : ⌊(n : ℚ) + 1 / 2⌋ = n := by
    rw [Int.floor_eq_iff]
    constructor
    · linarith
    · linarith
  rcases roundEven_cases ((n : ℚ) + 1 / 2) with ⟨_, hf⟩ | ⟨hr, _⟩ | ⟨hr, _⟩
  · rw [hfloor] at hf
    linarith
  · rw [hr, hfloor]
  · rw [hr, hfloor, hodd]

end Foundations
end RosarioDairy
