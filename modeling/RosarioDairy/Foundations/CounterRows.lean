import Mathlib.Logic.Function.Basic

/-!
# CounterRows — counters under row locks

A table of counters with one row for each key.  A transaction locks the row of a key by reading it for
an update, or by inserting it when it is missing; the lock lasts until the transaction ends.  What a
transaction has written is seen by nobody else until it commits: a row that was inserted but not
committed is missing for a read and is waited for by an insert.
-/

namespace RosarioDairy
namespace Foundations

/-- The committed counters, and the transaction that has locked each row. -/
structure CounterRows (K T : Type) where
  committed : K → Option Nat
  locked : K → Option T

namespace CounterRows

variable {K T : Type}

def empty : CounterRows K T :=
  { committed := fun _ => none
    locked := fun _ => none }

/-! ## Statements -/

/-- What a read for an update finds. -/
inductive Selected
  | row (value : Nat)
  | missing
  | waits

/-- `SELECT … FOR UPDATE`: only a committed row is found, and it is waited for while it is locked. -/
def select (rows : CounterRows K T) (k : K) : Selected :=
  match rows.committed k, rows.locked k with
  | none, _ => .missing
  | some value, none => .row value
  | some _, some _ => .waits

/-- What becomes of an insert. -/
inductive Inserted
  | row
  | duplicate
  | waits

/-- `INSERT` under a unique constraint: a row that another transaction has inserted is waited for. -/
def insert (rows : CounterRows K T) (k : K) : Inserted :=
  match rows.committed k, rows.locked k with
  | some _, _ => .duplicate
  | none, none => .row
  | none, some _ => .waits

/-- The number of a key that was committed last; before any it is zero. -/
def last (rows : CounterRows K T) (k : K) : Nat := (rows.committed k).getD 0

section Statements

variable {rows : CounterRows K T} {k : K}

theorem select_eq_row {value : Nat} (h : rows.select k = .row value) :
    rows.locked k = none ∧ value = rows.last k := by
  unfold select at h
  unfold last
  cases hcommitted : rows.committed k with
  | none => simp [hcommitted] at h
  | some v =>
      cases hlocked : rows.locked k with
      | none =>
          simp only [hcommitted, hlocked, Selected.row.injEq] at h
          exact ⟨rfl, h.symm⟩
      | some t => simp [hcommitted, hlocked] at h

theorem insert_eq_row (h : rows.insert k = .row) : rows.locked k = none ∧ 0 = rows.last k := by
  unfold insert at h
  unfold last
  cases hcommitted : rows.committed k with
  | some v => simp [hcommitted] at h
  | none =>
      cases hlocked : rows.locked k with
      | none => exact ⟨rfl, rfl⟩
      | some t => simp [hcommitted, hlocked] at h

end Statements

/-! ## Locks -/

variable [DecidableEq K] [DecidableEq T]

def lock (rows : CounterRows K T) (k : K) (t : T) : CounterRows K T :=
  { rows with locked := Function.update rows.locked k (some t) }

/-- The end of a transaction releases its rows. -/
def release (rows : CounterRows K T) (t : T) : CounterRows K T :=
  { rows with locked := fun k => if rows.locked k = some t then none else rows.locked k }

/-- The transaction commits the value it has written to a row. -/
def commit (rows : CounterRows K T) (t : T) (k : K) (value : Nat) : CounterRows K T :=
  { committed := Function.update rows.committed k (some value)
    locked := (rows.release t).locked }

/-- The transaction has locked the row and knows what is committed in it. -/
structure Holds (rows : CounterRows K T) (t : T) (k : K) (value : Nat) : Prop where
  locked : rows.locked k = some t
  value_eq : value = rows.last k

section Holding

variable {rows : CounterRows K T} {k k' : K} {t t' : T} {value value' : Nat}

omit [DecidableEq T] in
theorem holds_lock (hvalue : value = rows.last k) : (rows.lock k t).Holds t k value :=
  { locked := by simp [lock]
    value_eq := hvalue }

omit [DecidableEq T] in
/-- Locking a row that nobody holds. -/
theorem Holds.of_lock (h : rows.Holds t k value) (hfree : rows.locked k' = none) :
    (rows.lock k' t').Holds t k value := by
  have hne : k ≠ k' := by
    intro hEq
    have hnone : rows.locked k = none := hEq ▸ hfree
    exact absurd (hnone.symm.trans h.locked) (Option.some_ne_none t).symm
  exact
    { locked := (Function.update_of_ne hne _ _).trans h.locked
      value_eq := h.value_eq }

omit [DecidableEq K] in
theorem Holds.of_release (h : rows.Holds t k value) (hne : t ≠ t') :
    (rows.release t').Holds t k value := by
  have hother : rows.locked k ≠ some t' := by
    rw [h.locked]
    exact fun hEq => hne (Option.some.inj hEq)
  exact
    { locked := (if_neg hother).trans h.locked
      value_eq := h.value_eq }

/-- Another transaction that commits its row holds another one. -/
theorem Holds.of_commit (h : rows.Holds t k value) (hne : t ≠ t')
    (h' : rows.Holds t' k' value') (n : Nat) : (rows.commit t' k' n).Holds t k value := by
  have hkeys : k ≠ k' := by
    intro hEq
    have hlocked : rows.locked k = some t' := hEq ▸ h'.locked
    exact hne (Option.some.inj (h.locked.symm.trans hlocked))
  have hsame : (rows.commit t' k' n).committed k = rows.committed k :=
    Function.update_of_ne hkeys _ _
  refine
    { locked := (h.of_release hne).locked
      value_eq := ?_ }
  unfold last
  rw [hsame]
  exact h.value_eq

theorem last_commit (n : Nat) :
    (rows.commit t k n).last k' = if k' = k then n else rows.last k' := by
  unfold last commit
  by_cases hk : k' = k
  · simp [hk]
  · simp [hk]

end Holding

end CounterRows

end Foundations
end RosarioDairy
