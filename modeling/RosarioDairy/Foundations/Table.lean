import Mathlib.Algebra.Order.Ring.Int
import Mathlib.Data.List.Nodup

/-!
# Table — rows under a primary key

A table lists its rows in insertion order.  Every row has a distinct primary key and the next
key to hand out is above all of them; both facts are fields, so no table with a repeated or a
reused key can be built.  `create` inserts a row under the next key, `put` overwrites the row
with the same key, `find` looks a key up.
-/

namespace RosarioDairy
namespace Foundations

/-- Rows that carry their primary key. -/
class Row (R : Type) where
  pk : R → Nat

open Row

/-- A table of rows with distinct primary keys, all below the next key of its sequence. -/
structure Table (R : Type) [Row R] where
  rows : List R
  next : Nat
  nodup : (rows.map pk).Nodup
  below : ∀ r ∈ rows, pk r < next

namespace Table

variable {R : Type} [Row R]

/-- The table without rows. -/
def empty : Table R :=
  { rows := []
    next := 1
    nodup := by simp
    below := by simp }

/-- The row with primary key `k`. -/
def find (t : Table R) (k : Nat) : Option R :=
  t.rows.find? (fun r => decide (pk r = k))

/-- Insert a row under the next primary key. -/
def create (t : Table R) (mk : Nat → R) (hpk : ∀ n, pk (mk n) = n := by exact fun _ => id rfl) :
    Table R :=
  { rows := t.rows ++ [mk t.next]
    next := t.next + 1
    nodup := by
      have hlast : t.next ∉ t.rows.map pk := by
        intro hmem
        rcases List.mem_map.1 hmem with ⟨r, hr, hrk⟩
        exact absurd (t.below r hr) (by omega)
      simpa [List.nodup_append, hpk, t.nodup] using
        fun r hr (hEq : pk r = t.next) => hlast (List.mem_map.2 ⟨r, hr, hEq⟩)
    below := by
      intro r hr
      rcases List.mem_append.1 hr with hold | hnew
      · exact Nat.lt_succ_of_lt (t.below r hold)
      · have hEq : r = mk t.next := by simpa using hnew
        simp [hEq, hpk] }

/-- The rows after overwriting the one that shares `row`'s key. -/
def putRows (rows : List R) (row : R) : List R :=
  rows.map (fun r => if pk r = pk row then row else r)

theorem map_pk_putRows (rows : List R) (row : R) : (putRows rows row).map pk = rows.map pk := by
  unfold putRows
  rw [List.map_map]
  apply List.map_congr_left
  intro r _
  by_cases h : pk r = pk row
  · simp [h]
  · simp [h]

/-- Overwrite the row that shares `row`'s primary key. -/
def put (t : Table R) (row : R) : Table R :=
  { rows := putRows t.rows row
    next := t.next
    nodup := by
      rw [map_pk_putRows]
      exact t.nodup
    below := by
      intro r hr
      have hk : pk r ∈ t.rows.map pk := by
        rw [← map_pk_putRows t.rows row]
        exact List.mem_map.2 ⟨r, hr, rfl⟩
      rcases List.mem_map.1 hk with ⟨r₀, hr₀, hEq⟩
      exact hEq ▸ t.below r₀ hr₀ }

/-- Apply `f` to every row that satisfies `p`. -/
def updateWhere (t : Table R) (p : R → Bool) (f : R → R)
    (hpk : ∀ r, pk (f r) = pk r := by exact fun _ => id rfl) : Table R :=
  { rows := t.rows.map (fun r => if p r then f r else r)
    next := t.next
    nodup := by
      have hkeys : (t.rows.map (fun r => if p r then f r else r)).map pk = t.rows.map pk := by
        rw [List.map_map]
        apply List.map_congr_left
        intro r _
        by_cases h : p r
        · simp [h, hpk]
        · simp [h]
      rw [hkeys]
      exact t.nodup
    below := by
      intro r hr
      rcases List.mem_map.1 hr with ⟨r₀, hr₀, rfl⟩
      by_cases h : p r₀
      · simpa [h, hpk] using t.below r₀ hr₀
      · simpa [h] using t.below r₀ hr₀ }

/-- Delete every row that satisfies `p`. -/
def deleteWhere (t : Table R) (p : R → Bool) : Table R :=
  { rows := t.rows.filter fun r => !p r
    next := t.next
    nodup := t.nodup.sublist (List.filter_sublist.map pk)
    below := fun r hr => t.below r (List.mem_of_mem_filter hr) }

/-- The row inserted last among those that satisfy `p`. -/
def newest (t : Table R) (p : R → Bool) : Option R := t.rows.reverse.find? p

@[simp] theorem rows_empty : (empty : Table R).rows = [] := rfl

@[simp] theorem rows_create (t : Table R) (mk : Nat → R) (hpk : ∀ n, pk (mk n) = n) :
    (t.create mk hpk).rows = t.rows ++ [mk t.next] := rfl

@[simp] theorem next_create (t : Table R) (mk : Nat → R) (hpk : ∀ n, pk (mk n) = n) :
    (t.create mk hpk).next = t.next + 1 := rfl

@[simp] theorem next_put (t : Table R) (row : R) : (t.put row).next = t.next := rfl

@[simp] theorem rows_updateWhere (t : Table R) (p : R → Bool) (f : R → R)
    (hpk : ∀ r, pk (f r) = pk r) :
    (t.updateWhere p f hpk).rows = t.rows.map (fun r => if p r then f r else r) := rfl

@[simp] theorem next_updateWhere (t : Table R) (p : R → Bool) (f : R → R)
    (hpk : ∀ r, pk (f r) = pk r) : (t.updateWhere p f hpk).next = t.next := rfl

/-- Overwriting the row that was just created. -/
theorem rows_put_create (t : Table R) (mk : Nat → R) (hpk : ∀ n, pk (mk n) = n) {row : R}
    (hrow : pk row = t.next) : ((t.create mk hpk).put row).rows = t.rows ++ [row] := by
  have hold : t.rows.map (fun r => if pk r = t.next then row else r) = t.rows.map id := by
    apply List.map_congr_left
    intro r hr
    have hlt := t.below r hr
    have hne : ¬ pk r = t.next := by omega
    simp [hne]
  simp [put, putRows, hrow, hpk, hold]

/-- Two rows of a table with the same primary key are the same row. -/
theorem eq_of_pk_eq (t : Table R) {r r' : R} (hr : r ∈ t.rows) (hr' : r' ∈ t.rows)
    (h : pk r = pk r') : r = r' :=
  List.inj_on_of_nodup_map t.nodup hr hr' h

theorem find_eq_some {t : Table R} {k : Nat} {r : R} :
    t.find k = some r ↔ r ∈ t.rows ∧ pk r = k := by
  constructor
  · intro h
    refine ⟨List.mem_of_find?_eq_some h, ?_⟩
    simpa using List.find?_some h
  · rintro ⟨hr, hk⟩
    cases hfind : t.find k with
    | none =>
        have hne : ∀ x ∈ t.rows, ¬ pk x = k := by
          simpa [find] using hfind
        exact absurd hk (hne r hr)
    | some r' =>
        have hr' : r' ∈ t.rows := List.mem_of_find?_eq_some hfind
        have hk' : pk r' = k := by simpa using List.find?_some hfind
        rw [t.eq_of_pk_eq hr' hr (hk'.trans hk.symm)]

theorem find_eq_none {t : Table R} {k : Nat} : t.find k = none ↔ ∀ r ∈ t.rows, pk r ≠ k := by
  simp [find]

@[simp] theorem find_empty (k : Nat) : (empty : Table R).find k = none := rfl

theorem find_of_mem (t : Table R) {r : R} (hr : r ∈ t.rows) : t.find (pk r) = some r :=
  find_eq_some.2 ⟨hr, rfl⟩

/-- A key at or above the next one is unused. -/
theorem find_next (t : Table R) {k : Nat} (hk : t.next ≤ k) : t.find k = none := by
  refine find_eq_none.2 ?_
  intro r hr hEq
  have := t.below r hr
  omega

theorem newest_eq_some {t : Table R} {p : R → Bool} {r : R} (h : t.newest p = some r) :
    r ∈ t.rows ∧ p r = true :=
  ⟨List.mem_reverse.1 (List.mem_of_find?_eq_some h), List.find?_some h⟩

theorem newest_eq_none {t : Table R} {p : R → Bool} :
    t.newest p = none ↔ ∀ r ∈ t.rows, p r = false := by
  simp [newest]

theorem find_create (t : Table R) (mk : Nat → R) (hpk : ∀ n, pk (mk n) = n) (k : Nat) :
    (t.create mk hpk).find k = if k = t.next then some (mk t.next) else t.find k := by
  by_cases hk : k = t.next
  · rw [if_pos hk]
    exact find_eq_some.2 ⟨by simp, by rw [hpk, hk]⟩
  · have hne : ¬ t.next = k := fun h => hk h.symm
    simp [find, List.find?_append, hpk, hne, hk]

theorem find_put_eq_none {t : Table R} {k : Nat} (h : t.find k = none) (row : R) :
    (t.put row).find k = none := by
  refine find_eq_none.2 ?_
  intro r hr hrk
  -- saving keeps the keys, so the key was in the table before
  have hmem : pk r ∈ t.rows.map pk := by
    rw [← map_pk_putRows t.rows row]
    exact List.mem_map.2 ⟨r, hr, rfl⟩
  rcases List.mem_map.1 hmem with ⟨r₀, hr₀, hEq⟩
  exact find_eq_none.1 h r₀ hr₀ (hEq.trans hrk)

theorem find_put (t : Table R) (row : R) (k : Nat) :
    (t.put row).find k = if k = pk row then (t.find k).map (fun _ => row) else t.find k := by
  cases hfind : t.find k with
  | none =>
      rw [find_put_eq_none hfind, Option.map_none, ite_self]
  | some r =>
      rcases find_eq_some.1 hfind with ⟨hr, hrk⟩
      by_cases hk : k = pk row
      · rw [if_pos hk]
        refine find_eq_some.2 ⟨List.mem_map.2 ⟨r, hr, ?_⟩, hk.symm⟩
        simp [hrk, hk]
      · rw [if_neg hk]
        have hne : pk r ≠ pk row := fun h => hk (hrk.symm.trans h)
        exact find_eq_some.2 ⟨List.mem_map.2 ⟨r, hr, by simp [hne]⟩, hrk⟩

/-- What an overwritten row shares with the old one is read off the table as before. -/
theorem map_rows_put {α : Type} (t : Table R) (row : R) {old : R} (hfind : t.find (pk row) = some old)
    {f : R → α} (hf : f row = f old) : (t.put row).rows.map f = t.rows.map f := by
  have hrows : (t.put row).rows = t.rows.map (fun r => if pk r = pk row then row else r) := rfl
  rw [hrows, List.map_map]
  apply List.map_congr_left
  intro r hr
  rcases find_eq_some.1 hfind with ⟨hold, hpk⟩
  by_cases h : pk r = pk row
  · have hEq : r = old := t.eq_of_pk_eq hr hold (h.trans hpk.symm)
    subst hEq
    simp [hpk, hf]
  · simp [h]

theorem mem_put {t : Table R} {row r : R} :
    r ∈ (t.put row).rows ↔
      (r ∈ t.rows ∧ pk r ≠ pk row) ∨ (r = row ∧ ∃ r₀ ∈ t.rows, pk r₀ = pk row) := by
  constructor
  · intro h
    rcases List.mem_map.1 h with ⟨r₀, hr₀, hEq⟩
    by_cases hk : pk r₀ = pk row
    · right
      simp only [hk, if_true] at hEq
      exact ⟨hEq.symm, r₀, hr₀, hk⟩
    · left
      simp only [hk, if_false] at hEq
      exact ⟨hEq ▸ hr₀, hEq ▸ hk⟩
  · rintro (⟨hr, hk⟩ | ⟨rfl, r₀, hr₀, hk⟩)
    · exact List.mem_map.2 ⟨r, hr, by simp [hk]⟩
    · exact List.mem_map.2 ⟨r₀, hr₀, by simp [hk]⟩

/-! ## Several rows at once -/

/-- Saving rows one after the other leaves the other keys alone. -/
theorem find_putAll_of_ne {k : Nat} :
    ∀ (saved : List R) (t : Table R), (∀ row ∈ saved, pk row ≠ k) →
      (saved.foldl put t).find k = t.find k
  | [], _, _ => rfl
  | row :: saved, t, hne => by
      have hrest := find_putAll_of_ne saved (t.put row) fun r hr => hne r (List.mem_cons_of_mem _ hr)
      have hfirst : k ≠ pk row := fun h => hne row List.mem_cons_self h.symm
      rw [List.foldl_cons, hrest, find_put, if_neg hfirst]

/-- A saved row is found under its key, when the key was there and no other saved row has it. -/
theorem find_putAll_of_mem :
    ∀ (saved : List R) (t : Table R), (saved.map pk).Nodup → ∀ row ∈ saved,
      (∃ old, t.find (pk row) = some old) → (saved.foldl put t).find (pk row) = some row
  | [], _, _, _, hrow, _ => by cases hrow
  | first :: saved, t, hnodup, row, hrow, ⟨old, hold⟩ => by
      rw [List.map_cons] at hnodup
      rcases List.nodup_cons.1 hnodup with ⟨hfresh, hnodup'⟩
      rw [List.foldl_cons]
      rcases List.mem_cons.1 hrow with rfl | hlater
      · -- later saves have other keys
        rw [find_putAll_of_ne saved (t.put row)]
        · rw [find_put, if_pos rfl, hold]
          rfl
        · intro r hr hEq
          exact hfresh (List.mem_map.2 ⟨r, hr, hEq⟩)
      · refine find_putAll_of_mem saved (t.put first) hnodup' row hlater ?_
        have hne : pk row ≠ pk first := by
          intro hEq
          exact hfresh (List.mem_map.2 ⟨row, hlater, hEq⟩)
        exact ⟨old, by rw [find_put, if_neg hne, hold]⟩

end Table

end Foundations
end RosarioDairy
