import Mathlib.Data.Int.Log
import Mathlib.Tactic.FieldSimp
import Mathlib.Tactic.Linarith
import Mathlib.Tactic.NormNum
import Mathlib.Tactic.Positivity
import Mathlib.Tactic.Ring
import RosarioDairy.Foundations.Rounding

/-!
# Binary64 — double-precision numbers by their values

A finite number is a rational with at most 53 binary digits; every operation is the exact one followed
by rounding to the nearest number, ties to the even digit.  Results out of range are infinite, and
undefined ones are not a number, which compares with nothing.  The sign of zero is not kept.
-/

namespace RosarioDairy
namespace Foundations

/-! ## Rounding to 53 binary digits -/

/-- The exponent of the last binary digit of a number of this size. -/
def lastPlace (q : ℚ) : Int := max (Int.log 2 q - 52) (-1074)

/-- The nearest number of 53 binary digits, for numbers that are not negative. -/
def nearest (q : ℚ) : ℚ := roundEven (q / 2 ^ lastPlace q) * 2 ^ lastPlace q

/-- At most 53 binary digits, none of them below the smallest one. -/
def OnGrid (q : ℚ) : Prop :=
  ∃ (m : ℕ) (j : Int), m ≤ 2 ^ 53 ∧ -1074 ≤ j ∧ q = m * 2 ^ j

theorem two_zpow_pos (j : Int) : (0 : ℚ) < 2 ^ j := zpow_pos (by norm_num) j

theorem two_zpow_add (i j : Int) : (2 : ℚ) ^ (i + j) = 2 ^ i * 2 ^ j := zpow_add₀ (by norm_num) i j

theorem two_zpow_le {i j : Int} (h : i ≤ j) : (2 : ℚ) ^ i ≤ 2 ^ j :=
  zpow_le_zpow_right₀ (by norm_num) h

theorem log_le {q : ℚ} (h : 0 < q) : (2 : ℚ) ^ Int.log 2 q ≤ q := by
  exact_mod_cast Int.zpow_log_le_self (b := 2) (by decide) h

theorem lt_log (q : ℚ) : q < (2 : ℚ) ^ (Int.log 2 q + 1) := by
  exact_mod_cast Int.lt_zpow_succ_log_self (b := 2) (by decide) q

theorem lt_lastPlace (q : ℚ) : q < 2 ^ 53 * (2 : ℚ) ^ lastPlace q := by
  have hplace : Int.log 2 q + 1 ≤ 53 + lastPlace q := by
    have := le_max_left (Int.log 2 q - 52) (-1074)
    unfold lastPlace
    omega
  calc q < (2 : ℚ) ^ (Int.log 2 q + 1) := lt_log q
    _ ≤ (2 : ℚ) ^ ((53 : Int) + lastPlace q) := two_zpow_le hplace
    _ = 2 ^ 53 * (2 : ℚ) ^ lastPlace q := by
        rw [two_zpow_add]
        norm_num

/-- Above the smallest numbers, the last digit is the 53rd. -/
theorem pow_le_of_lastPlace {q : ℚ} (hq : 0 < q) (h : -1074 < lastPlace q) :
    2 ^ 52 * (2 : ℚ) ^ lastPlace q ≤ q := by
  have hplace : lastPlace q = Int.log 2 q - 52 := by
    unfold lastPlace at h ⊢
    omega
  calc 2 ^ 52 * (2 : ℚ) ^ lastPlace q = (2 : ℚ) ^ Int.log 2 q := by
        rw [hplace, sub_eq_add_neg, two_zpow_add, mul_left_comm]
        norm_num
    _ ≤ q := log_le hq

theorem nearest_zero : nearest 0 = 0 := by
  have hzero : roundEven 0 = 0 := roundEven_intCast 0
  rw [nearest, zero_div, hzero, Int.cast_zero, zero_mul]

theorem nearest_nonneg {q : ℚ} (hq : 0 ≤ q) : 0 ≤ nearest q := by
  have hround : 0 ≤ roundEven (q / 2 ^ lastPlace q) :=
    le_roundEven (by exact_mod_cast div_nonneg hq (two_zpow_pos _).le)
  exact mul_nonneg (by exact_mod_cast hround) (two_zpow_pos _).le

theorem onGrid_nearest {q : ℚ} (hq : 0 ≤ q) : OnGrid (nearest q) := by
  have hpos := two_zpow_pos (lastPlace q)
  have hround : 0 ≤ roundEven (q / 2 ^ lastPlace q) :=
    le_roundEven (by exact_mod_cast div_nonneg hq hpos.le)
  have hbound : roundEven (q / 2 ^ lastPlace q) ≤ 2 ^ 53 := by
    apply roundEven_le
    rw [div_le_iff₀ hpos]
    push_cast
    exact (lt_lastPlace q).le
  obtain ⟨m, hm⟩ := Int.eq_ofNat_of_zero_le hround
  refine ⟨m, lastPlace q, ?_, le_max_right _ _, ?_⟩
  · rw [hm] at hbound
    exact_mod_cast hbound
  · rw [nearest, hm]
    norm_cast

/-- A multiple of the last place is an integer multiple of it. -/
theorem div_zpow_eq_intCast (m : ℕ) {i j : Int} (h : i ≤ j) :
    (m : ℚ) * 2 ^ j / 2 ^ i = ((m * 2 ^ (j - i).toNat : Int) : ℚ) := by
  have hsplit : (2 : ℚ) ^ j = 2 ^ (j - i).toNat * 2 ^ i := by
    rw [← zpow_natCast, ← two_zpow_add]
    congr 1
    omega
  have hne : (2 : ℚ) ^ i ≠ 0 := (two_zpow_pos i).ne'
  rw [hsplit, ← mul_assoc, mul_div_cancel_right₀ _ hne]
  push_cast
  rfl

/-- A number of 53 digits that has digits below the last place of a smaller one is the next power of
two. -/
theorem le_lastPlace_of_le {q : ℚ} (hq : 0 < q) {m : ℕ} {j : Int} (hm : m ≤ 2 ^ 53) (hj : -1074 ≤ j)
    (hle : q ≤ m * 2 ^ j) (hbelow : j < lastPlace q) :
    (m : ℚ) * 2 ^ j = 2 ^ 52 * 2 ^ lastPlace q := by
  have hlow := pow_le_of_lastPlace hq (by omega)
  have hmax : (m : ℚ) * 2 ^ j ≤ 2 ^ 52 * 2 ^ lastPlace q :=
    calc (m : ℚ) * 2 ^ j ≤ 2 ^ 53 * 2 ^ j :=
          mul_le_mul_of_nonneg_right (by exact_mod_cast hm) (two_zpow_pos j).le
      _ = 2 ^ 52 * (2 : ℚ) ^ (j + 1) := by
          rw [two_zpow_add]
          norm_num
          ring
      _ ≤ 2 ^ 52 * (2 : ℚ) ^ lastPlace q :=
          mul_le_mul_of_nonneg_left (two_zpow_le (by omega)) (by norm_num)
  exact le_antisymm hmax (hlow.trans hle)

/-- Rounding does not pass a number of 53 digits from below. -/
theorem nearest_le {q c : ℚ} (hq : 0 ≤ q) (hc : OnGrid c) (h : q ≤ c) : nearest q ≤ c := by
  rcases hq.lt_or_eq with hpos | hzero
  · obtain ⟨m, j, hm, hj, rfl⟩ := hc
    have hunit := two_zpow_pos (lastPlace q)
    -- in either case the bound is an integer multiple of the last place
    obtain ⟨n, hn⟩ : ∃ n : Int, (m : ℚ) * 2 ^ j = n * 2 ^ lastPlace q := by
      by_cases hplace : lastPlace q ≤ j
      · refine ⟨m * 2 ^ (j - lastPlace q).toNat, ?_⟩
        rw [← div_zpow_eq_intCast m hplace, div_mul_cancel₀ _ hunit.ne']
      · refine ⟨2 ^ 52, ?_⟩
        rw [le_lastPlace_of_le hpos hm hj h (not_le.1 hplace)]
        norm_cast
    rw [hn] at h ⊢
    have hround : roundEven (q / 2 ^ lastPlace q) ≤ n := roundEven_le ((div_le_iff₀ hunit).2 h)
    exact mul_le_mul_of_nonneg_right (by exact_mod_cast hround) hunit.le
  · rw [← hzero, nearest_zero, hzero]
    exact h

/-- Rounding does not pass a number of 53 digits from above. -/
theorem le_nearest {q c : ℚ} (hc : OnGrid c) (h : c ≤ q) : c ≤ nearest q := by
  obtain ⟨m, j, hm, hj, rfl⟩ := hc
  have hunit := two_zpow_pos (lastPlace q)
  have hcNonneg : (0 : ℚ) ≤ m * 2 ^ j := mul_nonneg (Nat.cast_nonneg m) (two_zpow_pos j).le
  rcases (hcNonneg.trans h).lt_or_eq with hpos | hzero
  · by_cases hplace : lastPlace q ≤ j
    · -- the last place of `q` divides the bound, so rounding in that place keeps the order
      have hround : (m * 2 ^ (j - lastPlace q).toNat : Int) ≤ roundEven (q / 2 ^ lastPlace q) := by
        apply le_roundEven
        rw [← div_zpow_eq_intCast m hplace]
        exact div_le_div_of_nonneg_right h hunit.le
      rw [nearest, ← div_le_iff₀ hunit, div_zpow_eq_intCast m hplace]
      exact_mod_cast hround
    · -- the bound is below the power of two from which the last place starts
      have hlow := pow_le_of_lastPlace hpos (by omega)
      have hround : (2 ^ 52 : Int) ≤ roundEven (q / 2 ^ lastPlace q) := by
        apply le_roundEven
        rw [le_div_iff₀ hunit]
        push_cast
        exact hlow
      calc (m : ℚ) * 2 ^ j ≤ 2 ^ 53 * 2 ^ j :=
            mul_le_mul_of_nonneg_right (by exact_mod_cast hm) (two_zpow_pos j).le
        _ = 2 ^ 52 * (2 : ℚ) ^ (j + 1) := by
            rw [two_zpow_add]
            norm_num
            ring
        _ ≤ 2 ^ 52 * (2 : ℚ) ^ lastPlace q :=
            mul_le_mul_of_nonneg_left (two_zpow_le (by omega)) (by norm_num)
        _ ≤ nearest q := mul_le_mul_of_nonneg_right (by exact_mod_cast hround) hunit.le
  · rw [← hzero] at h ⊢
    rw [nearest_zero]
    exact h

theorem nearest_onGrid {c : ℚ} (hnonneg : 0 ≤ c) (hc : OnGrid c) : nearest c = c :=
  le_antisymm (nearest_le hnonneg hc (le_refl c)) (le_nearest hc (le_refl c))

/-- The last place of the numbers between two powers of two. -/
theorem lastPlace_eq {q : ℚ} {j : Int} (hj : -1074 ≤ j) (hlow : (2 : ℚ) ^ (52 + j) ≤ q)
    (hhigh : q < (2 : ℚ) ^ (53 + j)) : lastPlace q = j := by
  have hpos : 0 < q := (two_zpow_pos _).trans_le hlow
  have hle : 52 + j ≤ Int.log 2 q :=
    (Int.zpow_le_iff_le_log (b := 2) (by decide) hpos).1 (by exact_mod_cast hlow)
  have hlt : Int.log 2 q < 53 + j :=
    (Int.lt_zpow_iff_log_lt (b := 2) (by decide) hpos).1 (by exact_mod_cast hhigh)
  unfold lastPlace
  omega

section Tolerance

variable {n : ℕ} {j : Int}

/-- What rounds to a number with an odd last digit, or below, is less than half a digit above it. -/
theorem lt_of_nearest_le (hodd : n % 2 = 1) (hlow : 2 ^ 52 ≤ n) (hhigh : n < 2 ^ 53)
    (hj : -1074 ≤ j) {q : ℚ} (h : nearest q ≤ n * 2 ^ j) : q < (n + 1 / 2) * 2 ^ j := by
  have hunit := two_zpow_pos j
  by_contra hge
  have hge : ((n : ℚ) + 1 / 2) * 2 ^ j ≤ q := not_lt.1 hge
  have habove : ((n + 1 : ℕ) : ℚ) * 2 ^ j ≤ nearest q := by
    by_cases hnext : ((n + 1 : ℕ) : ℚ) * 2 ^ j ≤ q
    · exact le_nearest ⟨n + 1, j, hhigh, hj, rfl⟩ hnext
    · have hlog : (2 : ℚ) ^ (52 + j) ≤ q := by
        refine le_trans ?_ hge
        rw [two_zpow_add]
        refine mul_le_mul_of_nonneg_right ?_ hunit.le
        have hcast : (2 : ℚ) ^ (52 : Int) ≤ n := by exact_mod_cast hlow
        linarith
      have hlog' : q < (2 : ℚ) ^ (53 + j) := by
        refine lt_of_lt_of_le (not_le.1 hnext) ?_
        rw [two_zpow_add]
        refine mul_le_mul_of_nonneg_right ?_ hunit.le
        exact_mod_cast hhigh
      have hplace := lastPlace_eq hj hlog hlog'
      -- the middle above an odd digit goes up, and everything from there on does
      have hround : (n : Int) + 1 ≤ roundEven (q / 2 ^ j) := by
        have hhalf : roundEven (((n : Int) : ℚ) + 1 / 2) = n + 1 := roundEven_half_of_odd (by omega)
        rw [← hhalf]
        apply roundEven_mono
        rw [le_div_iff₀ hunit]
        exact_mod_cast hge
      rw [nearest, hplace]
      refine mul_le_mul_of_nonneg_right ?_ hunit.le
      exact_mod_cast hround
  have hstrict : (n : ℚ) * 2 ^ j < ((n + 1 : ℕ) : ℚ) * 2 ^ j :=
    mul_lt_mul_of_pos_right (by exact_mod_cast Nat.lt_succ_self n) hunit
  linarith

/-- Less than half a digit above a number, rounding does not pass it. -/
theorem nearest_le_of_lt_half (hlow : 2 ^ 52 ≤ n) (hhigh : n < 2 ^ 53) (hj : -1074 ≤ j) {q : ℚ}
    (hq : 0 ≤ q) (h : q < (n + 1 / 2) * 2 ^ j) : nearest q ≤ n * 2 ^ j := by
  have hunit := two_zpow_pos j
  by_cases hle : q ≤ n * 2 ^ j
  · exact nearest_le hq ⟨n, j, hhigh.le, hj, rfl⟩ hle
  · have hlog : (2 : ℚ) ^ (52 + j) ≤ q := by
      refine le_trans ?_ (not_le.1 hle).le
      rw [two_zpow_add]
      exact mul_le_mul_of_nonneg_right (by exact_mod_cast hlow) hunit.le
    have hlog' : q < (2 : ℚ) ^ (53 + j) := by
      refine lt_of_lt_of_le h ?_
      rw [two_zpow_add]
      refine mul_le_mul_of_nonneg_right ?_ hunit.le
      have hcast : (n : ℚ) + 1 ≤ 2 ^ (53 : Int) := by exact_mod_cast hhigh
      linarith
    have hplace := lastPlace_eq hj hlog hlog'
    have hround : roundEven (q / 2 ^ j) ≤ (n : Int) := by
      apply roundEven_le_of_lt_half
      rw [div_lt_iff₀ hunit]
      exact_mod_cast h
    rw [nearest, hplace]
    refine mul_le_mul_of_nonneg_right ?_ hunit.le
    exact_mod_cast hround

/-- Two numbers within a tolerance of a third are within twice the tolerance, all three distances
rounded. -/
theorem nearest_le_double (hodd : n % 2 = 1) (hlow : 2 ^ 52 ≤ n) (hhigh : n < 2 ^ 53)
    (hj : -1074 ≤ j) {a b d : ℚ} (ha : nearest a ≤ n * 2 ^ j) (hb : nearest b ≤ n * 2 ^ j)
    (hd : 0 ≤ d) (hsum : d ≤ a + b) : nearest d ≤ n * 2 ^ (j + 1) := by
  have hA := lt_of_nearest_le hodd hlow hhigh hj ha
  have hB := lt_of_nearest_le hodd hlow hhigh hj hb
  apply nearest_le_of_lt_half hlow hhigh (by omega) hd
  rw [two_zpow_add, zpow_one]
  linarith

end Tolerance

/-! ## The numbers -/

structure FiniteDouble where
  value : ℚ
  onGrid : OnGrid |value|
  lt : |value| < 2 ^ 1024

def FiniteDouble.abs (x : FiniteDouble) : FiniteDouble :=
  { value := |x.value|
    onGrid := by
      rw [abs_abs]
      exact x.onGrid
    lt := by
      rw [abs_abs]
      exact x.lt }

instance : DecidableEq FiniteDouble := fun x y =>
  decidable_of_iff (x.value = y.value) <| by
    cases x
    cases y
    simp

inductive Double
  | nan
  | infinity (negative : Bool)
  | finite (x : FiniteDouble)
  deriving DecidableEq

namespace Double

/-- The magnitude with a sign. -/
def signed (negative : Bool) (magnitude : ℚ) : ℚ := if negative then -magnitude else magnitude

theorem abs_signed (negative : Bool) {magnitude : ℚ} (h : 0 ≤ magnitude) :
    |signed negative magnitude| = magnitude := by
  cases negative with
  | true => rw [signed, if_pos rfl, abs_neg, abs_of_nonneg h]
  | false => exact abs_of_nonneg h

/-- The number nearest to an exact result. -/
def ofRat (q : ℚ) : Double :=
  if h : nearest |q| < 2 ^ 1024 then
    .finite
      { value := signed (decide (q < 0)) (nearest |q|)
        onGrid := by
          rw [abs_signed _ (nearest_nonneg (abs_nonneg q))]
          exact onGrid_nearest (abs_nonneg q)
        lt := by
          rw [abs_signed _ (nearest_nonneg (abs_nonneg q))]
          exact h }
  else
    .infinity (decide (q < 0))

def isNaN : Double → Bool
  | .nan => true
  | _ => false

def isInfinite : Double → Bool
  | .infinity _ => true
  | _ => false

def isFinite : Double → Bool
  | .finite _ => true
  | _ => false

def abs : Double → Double
  | .nan => .nan
  | .infinity _ => .infinity false
  | .finite x => .finite x.abs

def add : Double → Double → Double
  | .nan, _ => .nan
  | _, .nan => .nan
  | .infinity s, .infinity s' => if s = s' then .infinity s else .nan
  | .infinity s, .finite _ => .infinity s
  | .finite _, .infinity s => .infinity s
  | .finite x, .finite y => ofRat (x.value + y.value)

def sub : Double → Double → Double
  | .nan, _ => .nan
  | _, .nan => .nan
  | .infinity s, .infinity s' => if s = s' then .nan else .infinity s
  | .infinity s, .finite _ => .infinity s
  | .finite _, .infinity s => .infinity !s
  | .finite x, .finite y => ofRat (x.value - y.value)

def mul : Double → Double → Double
  | .nan, _ => .nan
  | _, .nan => .nan
  | .infinity s, .infinity s' => .infinity (s != s')
  | .infinity s, .finite y => if y.value = 0 then .nan else .infinity (s != decide (y.value < 0))
  | .finite x, .infinity s => if x.value = 0 then .nan else .infinity (s != decide (x.value < 0))
  | .finite x, .finite y => ofRat (x.value * y.value)

/-- Division by a number that is not zero. -/
def div : Double → Double → Double
  | .nan, _ => .nan
  | _, .nan => .nan
  | .infinity _, .infinity _ => .nan
  | .infinity s, .finite y => .infinity (s != decide (y.value < 0))
  | .finite _, .infinity _ => ofRat 0
  | .finite x, .finite y => ofRat (x.value / y.value)

/-- Equality of numbers: nothing equals what is not a number. -/
def beq : Double → Double → Bool
  | .infinity s, .infinity s' => s == s'
  | .finite x, .finite y => decide (x.value = y.value)
  | _, _ => false

def lt : Double → Double → Bool
  | .nan, _ => false
  | _, .nan => false
  | .infinity s, .infinity s' => s && !s'
  | .infinity s, .finite _ => s
  | .finite _, .infinity s => !s
  | .finite x, .finite y => decide (x.value < y.value)

def le (x y : Double) : Bool := lt x y || beq x y

/-- Round to some decimal places, half of a place to the even digit. -/
def roundPlaces : Double → Nat → Double
  | .finite x, places => ofRat (roundEven (x.value * 10 ^ places) / 10 ^ places)
  | x, _ => x

/-- Equality up to an absolute tolerance. -/
def isClose (tolerance x y : Double) : Bool :=
  beq x y || (!isInfinite x && !isInfinite y && le (abs (sub y x)) tolerance)

/-- One addition that keeps what was rounded off. -/
def compensate (total : Double × Double) (x : Double) : Double × Double :=
  let high := add total.1 x
  if le (abs x) (abs total.1) then (high, add total.2 (add (sub total.1 high) x))
  else (high, add total.2 (add (sub x high) total.1))

/-- The sum of a list, with what was rounded off added at the end. -/
def sum (xs : List Double) : Double :=
  let total := xs.foldl compensate (ofRat 0, ofRat 0)
  if !beq total.2 (ofRat 0) && isFinite total.2 then add total.1 total.2 else total.1

/-! ## Comparisons -/

theorem beq_self_iff (x : Double) : beq x x = true ↔ isNaN x = false := by
  cases x with
  | nan => simp [beq, isNaN]
  | infinity s => simp [beq, isNaN]
  | finite x => simp [beq, isNaN]

theorem beq_self_of_finite {x : Double} (h : isFinite x = true) : beq x x = true := by
  cases x with
  | nan => cases h
  | infinity s => cases h
  | finite x => simp [beq]

theorem isClose_self {tolerance x : Double} (h : isFinite x = true) :
    isClose tolerance x x = true := by
  simp [isClose, beq_self_of_finite h]

/-- The rounded magnitude of an exact result, compared with a number. -/
theorem le_abs_ofRat (q : ℚ) (x : FiniteDouble) :
    le (abs (ofRat q)) (.finite x) = true ↔ nearest |q| ≤ x.value := by
  by_cases hfits : nearest |q| < 2 ^ 1024
  · have hvalue := abs_signed (decide (q < 0)) (nearest_nonneg (abs_nonneg q))
    simp only [ofRat, hfits, dif_pos, abs, FiniteDouble.abs, le, lt, beq, hvalue, Bool.or_eq_true,
      decide_eq_true_eq, le_iff_lt_or_eq]
  · have hge : (2 : ℚ) ^ 1024 ≤ nearest |q| := not_lt.1 hfits
    have hx : x.value < 2 ^ 1024 := (le_abs_self _).trans_lt x.lt
    simp only [ofRat, hfits, dif_neg, not_false_eq_true, abs, le, lt, beq, Bool.or_self,
      Bool.false_eq_true, false_iff, not_le]
    exact hx.trans_le hge

theorem lt_eq_false_of_le {x y : Double} (h : le x y = true) : lt y x = false := by
  cases x with
  | nan => simp [le, lt, beq] at h
  | infinity s =>
      cases y with
      | nan => simp [le, lt, beq] at h
      | infinity s' =>
          cases s with
          | true => simp [lt]
          | false =>
              cases s' with
              | true => simp [le, lt, beq] at h
              | false => simp [lt]
      | finite y => simpa [le, lt, beq] using h
  | finite x =>
      cases y with
      | nan => simp [le, lt, beq] at h
      | infinity s => simpa [le, lt, beq] using h
      | finite y =>
          simp only [le, lt, beq, Bool.or_eq_true, decide_eq_true_eq, ← le_iff_lt_or_eq] at h
          simp [lt, h]

/-! ## Tolerances -/

theorem isClose_finite {t v : FiniteDouble} (ht : 0 ≤ t.value) {x : Double}
    (h : isClose (.finite t) (.finite v) x = true) :
    ∃ y, x = .finite y ∧ nearest |y.value - v.value| ≤ t.value := by
  cases x with
  | nan => simp [isClose, beq, isInfinite, sub, abs, le, lt] at h
  | infinity s => simp [isClose, beq, isInfinite] at h
  | finite y =>
      refine ⟨y, rfl, ?_⟩
      simp only [isClose, isInfinite, Bool.not_false, Bool.true_and, Bool.or_eq_true] at h
      rcases h with hEq | hle
      · have hvalue : v.value = y.value := of_decide_eq_true hEq
        rw [hvalue, sub_self, abs_zero, nearest_zero]
        exact ht
      · exact (le_abs_ofRat _ _).1 hle

/-- Numbers close to a common one are not farther apart than twice the tolerance, if the tolerance has
an odd last digit. -/
theorem isClose_double {n : ℕ} {j : Int} (hodd : n % 2 = 1) (hlow : 2 ^ 52 ≤ n) (hhigh : n < 2 ^ 53)
    (hj : -1074 ≤ j) {t t' v : FiniteDouble} (ht : t.value = n * 2 ^ j)
    (ht' : t'.value = n * 2 ^ (j + 1)) {x y : Double}
    (hx : isClose (.finite t) (.finite v) x = true) (hy : isClose (.finite t) (.finite v) y = true) :
    lt (.finite t') (abs (sub x y)) = false := by
  have hnonneg : 0 ≤ t.value := by
    rw [ht]
    exact mul_nonneg (Nat.cast_nonneg n) (two_zpow_pos j).le
  obtain ⟨a, rfl, ha⟩ := isClose_finite hnonneg hx
  obtain ⟨b, rfl, hb⟩ := isClose_finite hnonneg hy
  apply lt_eq_false_of_le
  refine (le_abs_ofRat _ _).2 ?_
  rw [ht] at ha hb
  rw [ht']
  refine nearest_le_double hodd hlow hhigh hj ha hb (abs_nonneg _) ?_
  calc |a.value - b.value| = |(a.value - v.value) - (b.value - v.value)| := by rw [sub_sub_sub_cancel_right]
    _ ≤ |a.value - v.value| + |b.value - v.value| := abs_sub _ _

/-! ## Decimal places -/

/-- A number of 53 digits below a number of sixty binary places is a whole spacing below it. -/
theorem le_of_lt_next {q : ℚ} (hq : OnGrid q) {n : ℕ} {j : Int} (hlow : 2 ^ 52 ≤ n)
    (h : q < ((n + 1 : ℕ) : ℚ) * 2 ^ j) : q ≤ n * 2 ^ j := by
  obtain ⟨m, i, hm, _, rfl⟩ := hq
  have hunit := two_zpow_pos j
  by_cases hij : j ≤ i
  · have hmultiple := div_zpow_eq_intCast m hij
    have hlt : ((m * 2 ^ (i - j).toNat : Int) : ℚ) < ((n + 1 : ℕ) : ℚ) := by
      rw [← hmultiple, div_lt_iff₀ hunit]
      exact h
    have hle : (m * 2 ^ (i - j).toNat : Int) ≤ n := by
      have hlt' : (m * 2 ^ (i - j).toNat : Int) < (n + 1 : ℕ) := by exact_mod_cast hlt
      omega
    rw [← div_le_iff₀ hunit, hmultiple]
    exact_mod_cast hle
  · calc (m : ℚ) * 2 ^ i ≤ 2 ^ 53 * 2 ^ i :=
          mul_le_mul_of_nonneg_right (by exact_mod_cast hm) (two_zpow_pos i).le
      _ = 2 ^ 52 * (2 : ℚ) ^ (i + 1) := by
          rw [two_zpow_add]
          norm_num
          ring
      _ ≤ 2 ^ 52 * (2 : ℚ) ^ j :=
          mul_le_mul_of_nonneg_left (two_zpow_le (by omega)) (by norm_num)
      _ ≤ n * 2 ^ j := mul_le_mul_of_nonneg_right (by exact_mod_cast hlow) hunit.le

theorem ofRat_of_nonneg {q : ℚ} (hq : 0 ≤ q) (h : nearest q < 2 ^ 1024) :
    ∃ y, ofRat q = .finite y ∧ y.value = nearest q := by
  have hfits : nearest |q| < 2 ^ 1024 := by
    rw [abs_of_nonneg hq]
    exact h
  refine ⟨_, by rw [ofRat, dif_pos hfits], ?_⟩
  simp [not_lt.2 hq, signed, abs_of_nonneg hq]

/-- Rounding a number to decimal places does not carry it to the next whole number of a size that has
no fractions left. -/
theorem roundPlaces_bounds {x : FiniteDouble} {n k : ℕ} (places : ℕ) (hlow : 2 ^ 52 ≤ n)
    (hhigh : n < 2 ^ 53) (hmax : (n : ℚ) * 2 ^ k < 2 ^ 1024) (hx : 0 ≤ x.value)
    (h : x.value < ((n + 1 : ℕ) : ℚ) * 2 ^ k) :
    ∃ y, roundPlaces (.finite x) places = .finite y ∧ 0 ≤ y.value ∧ y.value ≤ n * 2 ^ k := by
  have hscale : (0 : ℚ) < 10 ^ places := by positivity
  have hgrid : OnGrid x.value := by
    have h' := x.onGrid
    rwa [abs_of_nonneg hx] at h'
  have hle : x.value ≤ n * 2 ^ k := by
    have h' := le_of_lt_next hgrid (j := k) hlow (by exact_mod_cast h)
    exact_mod_cast h'
  -- the rounded quotient, before it is taken back to a double
  obtain ⟨r, hr⟩ : ∃ r, roundEven (x.value * 10 ^ places) = r := ⟨_, rfl⟩
  have hr_nonneg : 0 ≤ r := by
    rw [← hr]
    exact le_roundEven (by exact_mod_cast mul_nonneg hx hscale.le)
  have hr_le : r ≤ (n * 2 ^ k * 10 ^ places : ℕ) := by
    rw [← hr]
    apply roundEven_le
    push_cast
    exact mul_le_mul_of_nonneg_right hle hscale.le
  have hq_nonneg : (0 : ℚ) ≤ r / 10 ^ places := div_nonneg (by exact_mod_cast hr_nonneg) hscale.le
  have hq_le : (r : ℚ) / 10 ^ places ≤ n * 2 ^ k := by
    rw [div_le_iff₀ hscale]
    exact_mod_cast hr_le
  -- `n * 2 ^ k` is on the grid, so rounding to the nearest double keeps under it
  have hbound : nearest ((r : ℚ) / 10 ^ places) ≤ n * 2 ^ k :=
    nearest_le hq_nonneg ⟨n, k, hhigh.le, by omega, by norm_cast⟩ hq_le
  obtain ⟨y, hy, hvalue⟩ := ofRat_of_nonneg hq_nonneg (hbound.trans_lt hmax)
  refine ⟨y, ?_, ?_, ?_⟩
  · rw [roundPlaces, hr, hy]
  · rw [hvalue]
    exact nearest_nonneg hq_nonneg
  · rw [hvalue]
    exact hbound

/-! ## Sums that stay in range -/

/-- A finite number of at most some magnitude. -/
def Within (k : ℕ) (x : Double) : Prop := ∃ y : FiniteDouble, x = .finite y ∧ |y.value| ≤ 2 ^ k

theorem Within.mono {k k' : ℕ} {x : Double} (h : Within k x) (hk : k ≤ k') : Within k' x := by
  obtain ⟨y, rfl, hy⟩ := h
  exact ⟨y, rfl, hy.trans (pow_le_pow_right₀ (by norm_num) hk)⟩

theorem Within.isFinite {k : ℕ} {x : Double} (h : Within k x) : isFinite x = true := by
  obtain ⟨y, rfl, _⟩ := h
  rfl

/-- Rounding does not pass a power of two. -/
theorem within_ofRat {k : ℕ} (hk : k < 1024) {q : ℚ} (hq : |q| ≤ 2 ^ k) : Within k (ofRat q) := by
  have hgrid : OnGrid (2 ^ k : ℚ) := ⟨1, k, by norm_num, by omega, by norm_num⟩
  have hround : nearest |q| ≤ 2 ^ k := nearest_le (abs_nonneg q) hgrid hq
  have hfits : nearest |q| < 2 ^ 1024 := hround.trans_lt (pow_lt_pow_right₀ (by norm_num) hk)
  refine ⟨_, by rw [ofRat, dif_pos hfits], ?_⟩
  rw [abs_signed _ (nearest_nonneg (abs_nonneg q))]
  exact hround

theorem Within.abs {k : ℕ} {x : Double} (h : Within k x) : Within k (abs x) := by
  obtain ⟨y, rfl, hy⟩ := h
  exact ⟨y.abs, rfl, (abs_abs y.value).trans_le hy⟩

theorem Within.add {k : ℕ} (hk : k + 1 < 1024) {x y : Double} (hx : Within k x) (hy : Within k y) :
    Within (k + 1) (add x y) := by
  obtain ⟨a, rfl, ha⟩ := hx
  obtain ⟨b, rfl, hb⟩ := hy
  apply within_ofRat hk
  calc |a.value + b.value| ≤ |a.value| + |b.value| := abs_add_le _ _
    _ ≤ 2 ^ k + 2 ^ k := add_le_add ha hb
    _ = 2 ^ (k + 1) := by ring

theorem Within.sub {k : ℕ} (hk : k + 1 < 1024) {x y : Double} (hx : Within k x) (hy : Within k y) :
    Within (k + 1) (sub x y) := by
  obtain ⟨a, rfl, ha⟩ := hx
  obtain ⟨b, rfl, hb⟩ := hy
  apply within_ofRat hk
  calc |a.value - b.value| ≤ |a.value| + |b.value| := abs_sub _ _
    _ ≤ 2 ^ k + 2 ^ k := add_le_add ha hb
    _ = 2 ^ (k + 1) := by ring

theorem within_compensate {k : ℕ} (hk : k + 4 < 1024) {total : Double × Double} {x : Double}
    (hhigh : Within k total.1) (hlow : Within k total.2) (hx : Within k x) :
    Within (k + 4) (compensate total x).1 ∧ Within (k + 4) (compensate total x).2 := by
  have hsum := Within.add (by omega) hhigh hx
  have hfirst := Within.add (by omega) (Within.sub (k := k + 1) (by omega) (hhigh.mono (by omega)) hsum)
    (hx.mono (by omega))
  have hsecond := Within.add (by omega)
    (Within.sub (k := k + 1) (by omega) (hx.mono (by omega)) hsum) (hhigh.mono (by omega))
  unfold compensate
  by_cases hle : le (abs x) (abs total.1) = true
  · simp only [hle, if_true]
    exact ⟨hsum.mono (by omega), Within.add (by omega) (hlow.mono (by omega)) hfirst⟩
  · simp only [hle, if_false, Bool.false_eq_true]
    exact ⟨hsum.mono (by omega), Within.add (by omega) (hlow.mono (by omega)) hsecond⟩

theorem within_foldl_compensate : ∀ (xs : List Double) (k : ℕ) (total : Double × Double),
    k + 4 * xs.length < 1024 → (∀ x ∈ xs, Within k x) → Within k total.1 → Within k total.2 →
    Within (k + 4 * xs.length) (xs.foldl compensate total).1 ∧
      Within (k + 4 * xs.length) (xs.foldl compensate total).2
  | [], _, _, _, _, hhigh, hlow => ⟨hhigh, hlow⟩
  | x :: xs, k, total, hk, hxs, hhigh, hlow => by
      rw [List.length_cons] at hk
      obtain ⟨hx, hrest⟩ := List.forall_mem_cons.1 hxs
      obtain ⟨hhigh', hlow'⟩ := within_compensate (by omega) hhigh hlow hx
      have ih := within_foldl_compensate xs (k + 4) (compensate total x) (by omega)
        (fun y hy => (hrest y hy).mono (by omega)) hhigh' hlow'
      have hlength : k + 4 * (x :: xs).length = k + 4 + 4 * xs.length := by
        rw [List.length_cons]
        omega
      rw [hlength]
      exact ih

/-- A sum whose length leaves room in the exponent is finite. -/
theorem within_sum {xs : List Double} {k : ℕ} (hk : k + 4 * xs.length + 1 < 1024)
    (hxs : ∀ x ∈ xs, Within k x) : Within (k + 4 * xs.length + 1) (sum xs) := by
  have hzero : Within k (ofRat 0) := within_ofRat (by omega) (by rw [abs_zero]; positivity)
  obtain ⟨hhigh, hlow⟩ := within_foldl_compensate xs k (ofRat 0, ofRat 0) (by omega) hxs hzero hzero
  unfold sum
  dsimp only
  split
  · exact Within.add hk hhigh hlow
  · exact hhigh.mono (by omega)

theorem isNaN_ofRat (q : ℚ) : isNaN (ofRat q) = false := by
  unfold ofRat
  split
  · rfl
  · rfl

theorem isNaN_roundPlaces {x : Double} (h : isNaN x = false) (places : ℕ) :
    isNaN (roundPlaces x places) = false := by
  cases x with
  | nan => exact h
  | infinity s => rfl
  | finite x => exact isNaN_ofRat _

theorem isNaN_div {x y : Double} (hx : isNaN x = false) (hy : isFinite y = true) :
    isNaN (div x y) = false := by
  cases y with
  | nan => cases hy
  | infinity s => cases hy
  | finite y =>
      cases x with
      | nan => cases hx
      | infinity s => rfl
      | finite x => exact isNaN_ofRat _

theorem isNaN_mul {x y : Double} (hx : isFinite x = true) (hy : isFinite y = true) :
    isNaN (mul x y) = false := by
  cases x with
  | nan => cases hx
  | infinity s => cases hx
  | finite x =>
      cases y with
      | nan => cases hy
      | infinity s => cases hy
      | finite y => exact isNaN_ofRat _

end Double

end Foundations
end RosarioDairy
