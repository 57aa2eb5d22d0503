import Mathlib.Data.Int.ConditionallyCompleteOrder
import Mathlib.Data.Int.SuccPred
import Mathlib.Data.List.Pairwise
import Mathlib.Data.List.Range
import Mathlib.Order.Monotone.Basic

/-!
# Tilings — days divided into numbered buckets

From some day on, every day lies in one of the buckets, which follow one another and are counted from
zero.  A bucket is known by its first day; it lasts to the day before the next one.
-/

namespace RosarioDairy
namespace Foundations

/-- The first days of the buckets in order, and the number of the bucket that a day lies in. -/
structure Tiling where
  first : Nat → Int
  index : Int → Nat
  first_lt : ∀ i, first i < first (i + 1)
  first_index_le : ∀ {day}, first 0 ≤ day → first (index day) ≤ day
  lt_first_index : ∀ {day}, first 0 ≤ day → day < first (index day + 1)

namespace Tiling

variable (T : Tiling)

theorem strictMono : StrictMono T.first := strictMono_nat_of_lt_succ T.first_lt

variable {T}

/-- Every bucket begins on one of the tiled days. -/
theorem first_zero_le (i : Nat) : T.first 0 ≤ T.first i := T.strictMono.monotone (Nat.zero_le i)

/-- The bucket of a day is the only one that the day lies in. -/
theorem index_eq {i : Nat} {day : Int} (hle : T.first i ≤ day) (hlt : day < T.first (i + 1)) :
    T.index day = i := by
  have hday : T.first 0 ≤ day := (first_zero_le i).trans hle
  apply Nat.le_antisymm
  · have h : T.first (T.index day) < T.first (i + 1) := (T.first_index_le hday).trans_lt hlt
    exact Nat.le_of_lt_succ (T.strictMono.lt_iff_lt.1 h)
  · have h : T.first i < T.first (T.index day + 1) := hle.trans_lt (T.lt_first_index hday)
    exact Nat.le_of_lt_succ (T.strictMono.lt_iff_lt.1 h)

@[simp]
theorem index_first (i : Nat) : T.index (T.first i) = i := index_eq le_rfl (T.first_lt i)

theorem first_le_iff {day : Int} (hday : T.first 0 ≤ day) {i : Nat} :
    T.first i ≤ day ↔ i ≤ T.index day := by
  constructor
  · intro hle
    have h : T.first i < T.first (T.index day + 1) := hle.trans_lt (T.lt_first_index hday)
    exact Nat.le_of_lt_succ (T.strictMono.lt_iff_lt.1 h)
  · intro hle
    exact (T.strictMono.monotone hle).trans (T.first_index_le hday)

theorem lt_first_iff {day : Int} (hday : T.first 0 ≤ day) {i : Nat} :
    day < T.first (i + 1) ↔ T.index day ≤ i := by
  rw [← not_le, first_le_iff hday, Nat.not_le, Nat.lt_succ_iff]

/-! ## Coarser tilings -/

variable (T) in
/-- So many buckets taken together. -/
def coarsen (size : Nat) (hsize : 0 < size) : Tiling :=
  { first := fun i => T.first (size * i)
    index := fun day => T.index day / size
    first_lt := by
      intro i
      exact T.strictMono (Nat.mul_lt_mul_of_pos_left (Nat.lt_succ_self i) hsize)
    first_index_le := by
      intro day hday
      have hle : size * (T.index day / size) ≤ T.index day := Nat.mul_div_le _ _
      exact (first_le_iff ((first_zero_le _).trans hday)).2 hle
    lt_first_index := by
      intro day hday
      have hlt : T.index day < size * (T.index day / size + 1) :=
        Nat.lt_mul_div_succ (T.index day) hsize
      have hzero : T.first 0 ≤ day := (first_zero_le _).trans hday
      exact (T.lt_first_index hzero).trans_le (T.strictMono.monotone hlt) }

/-! ## The buckets between two days -/

variable (T) in
/-- The first days of the buckets from that of one day to that of another. -/
def between (start stop : Int) : List Int :=
  (List.range' (T.index start) (T.index stop + 1 - T.index start)).map T.first

theorem sorted_between (start stop : Int) : (T.between start stop).Pairwise (· < ·) := by
  unfold between
  rw [List.pairwise_map]
  exact (List.pairwise_lt_range').imp fun h => T.strictMono h

/-- These are the buckets that have a day in common with the interval. -/
theorem mem_between {start stop : Int} (hstart : T.first 0 ≤ start) (hle : start ≤ stop)
    {bucket : Int} :
    bucket ∈ T.between start stop ↔
      ∃ i, T.first i = bucket ∧ bucket ≤ stop ∧ start < T.first (i + 1) := by
  unfold between
  rw [List.mem_map]
  constructor
  · rintro ⟨i, hi, rfl⟩
    obtain ⟨hlow, hhigh⟩ := List.mem_range'_1.1 hi
    have hstop : i ≤ T.index stop := by omega
    exact ⟨i, rfl, (first_le_iff (hstart.trans hle)).2 hstop, (lt_first_iff hstart).2 hlow⟩
  · rintro ⟨i, rfl, hbefore, hafter⟩
    have hlow : T.index start ≤ i := (lt_first_iff hstart).1 hafter
    have hhigh : i ≤ T.index stop := (first_le_iff (hstart.trans hle)).1 hbefore
    exact ⟨i, List.mem_range'_1.2 ⟨hlow, by omega⟩, rfl⟩

theorem length_between (start stop : Int) :
    (T.between start stop).length = T.index stop + 1 - T.index start := by
  rw [between, List.length_map, List.length_range']

end Tiling

end Foundations
end RosarioDairy
