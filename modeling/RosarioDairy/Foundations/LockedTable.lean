import Mathlib.Logic.Function.Basic
import RosarioDairy.Foundations.Table

/-!
# LockedTable — rows that are read, changed and saved under a lock

A writer locks a row and reads it in one statement, computes on its copy and saves the copy, or some
of its columns, before it releases the lock.  Writers without a copy wait for the lock and change
the row in one statement.  The structure keeps the fact all of this is for: a copy held under a lock
is the row itself, so that saving it loses no update.
-/

namespace RosarioDairy
namespace Foundations

open Row

/-- A table with its row locks; `χ` says what a lock is held for. -/
structure LockedTable (R χ : Type) [Row R] where
  table : Table R
  held : Nat → Option (χ × R)
  current : ∀ k holder copy, held k = some (holder, copy) → table.find k = some copy

namespace LockedTable

variable {R χ : Type} [Row R]

/-- A table nobody has locked. -/
def unlocked (table : Table R) : LockedTable R χ :=
  { table := table
    held := fun _ => none
    current := fun _ _ _ h => by cases h }

/-- Lock a row and read it; a locked or missing row is left alone. -/
def lock (t : LockedTable R χ) (k : Nat) (holder : χ) : LockedTable R χ :=
  match t.held k, hfind : t.table.find k with
  | none, some row =>
      { t with
        held := Function.update t.held k (some (holder, row))
        current := by
          intro k' holder' copy h
          by_cases hk : k' = k
          · subst hk
            simp only [Function.update_self, Option.some.injEq, Prod.mk.injEq] at h
            rw [hfind, h.2]
          · rw [Function.update_of_ne hk] at h
            exact t.current k' holder' copy h }
  | _, _ => t

def release (t : LockedTable R χ) (k : Nat) : LockedTable R χ :=
  { t with
    held := Function.update t.held k none
    current := by
      intro k' holder copy h
      by_cases hk : k' = k
      · subst hk
        simp at h
      · rw [Function.update_of_ne hk] at h
        exact t.current k' holder copy h }

theorem find_put_of_ne {table : Table R} {k k' : Nat} {row saved : R}
    (hfind : table.find k = some row) (hpk : pk saved = pk row) (hk : k' ≠ k) :
    (table.put saved).find k' = table.find k' := by
  have hrow : pk row = k := (Table.find_eq_some.1 hfind).2
  rw [Table.find_put, if_neg]
  intro hEq
  exact hk (hEq.trans (hpk.trans hrow))

theorem find_put_self {table : Table R} {k : Nat} {row saved : R}
    (hfind : table.find k = some row) (hpk : pk saved = pk row) :
    (table.put saved).find k = some saved := by
  have hrow : pk row = k := (Table.find_eq_some.1 hfind).2
  rw [Table.find_put, if_pos (hpk.trans hrow).symm, hfind]
  rfl

/-- Save `f copy row` over the row, where `copy` is what was read under the lock and `row` what the
table holds by now, and release the lock. -/
def save (t : LockedTable R χ) (k : Nat) (f : R → R → R)
    (hpk : ∀ copy row, pk copy = pk row → pk (f copy row) = pk row) : LockedTable R χ :=
  match hheld : t.held k, hfind : t.table.find k with
  | some (holder, copy), some row =>
      { table := t.table.put (f copy row)
        held := Function.update t.held k none
        current := by
          intro k' holder' copy' h
          by_cases hk : k' = k
          · subst hk
            simp at h
          · rw [Function.update_of_ne hk] at h
            have hcopy : row = copy :=
              Option.some.inj (hfind.symm.trans (t.current k holder copy hheld))
            rw [find_put_of_ne hfind (hpk copy row (by rw [hcopy])) hk]
            exact t.current k' holder' copy' h }
  | _, _ => t

/-- Change a row in one statement, as soon as nobody has locked it. -/
def touch (t : LockedTable R χ) (k : Nat) (f : R → R) (hpk : ∀ row, pk (f row) = pk row) :
    LockedTable R χ :=
  match hheld : t.held k, hfind : t.table.find k with
  | none, some row =>
      { t with
        table := t.table.put (f row)
        current := by
          intro k' holder copy h
          have hk : k' ≠ k := by
            rintro rfl
            rw [hheld] at h
            cases h
          rw [find_put_of_ne hfind (hpk row) hk]
          exact t.current k' holder copy h }
  | _, _ => t

/-- Insert a row under the next key. -/
def insert (t : LockedTable R χ) (mk : Nat → R)
    (hpk : ∀ n, pk (mk n) = n := by exact fun _ => id rfl) : LockedTable R χ :=
  { t with
    table := t.table.create mk hpk
    current := by
      intro k holder copy h
      have hfind := t.current k holder copy h
      rw [Table.find_create, if_neg]
      · exact hfind
      · rintro rfl
        rw [t.table.find_next (Nat.le_refl _)] at hfind
        cases hfind }

/-! ## What the steps do to the rows -/

@[simp] theorem table_lock (t : LockedTable R χ) (k : Nat) (holder : χ) :
    (t.lock k holder).table = t.table := by
  unfold lock
  split
  · rfl
  · rfl

@[simp] theorem table_release (t : LockedTable R χ) (k : Nat) :
    (t.release k).table = t.table := rfl

/-- A save makes of the row what the writer made of its copy. -/
theorem find_save {t : LockedTable R χ} {k : Nat} {holder : χ} {copy : R}
    (hheld : t.held k = some (holder, copy)) (f : R → R → R)
    (hpk : ∀ copy row, pk copy = pk row → pk (f copy row) = pk row) (k' : Nat) :
    (t.save k f hpk).table.find k' = if k' = k then some (f copy copy) else t.table.find k' := by
  have hfind := t.current k holder copy hheld
  unfold save
  split
  · rename_i holder' copy' row hheld' hfind'
    rw [hheld] at hheld'
    cases hheld'
    rw [hfind] at hfind'
    cases hfind'
    by_cases hk : k' = k
    · subst hk
      rw [if_pos rfl]
      exact find_put_self hfind (hpk copy copy rfl)
    · rw [if_neg hk]
      exact find_put_of_ne hfind (hpk copy copy rfl) hk
  · rename_i hnot
    exact absurd hfind (hnot holder copy copy hheld)

theorem find_touch {t : LockedTable R χ} (k : Nat) (f : R → R)
    (hpk : ∀ row, pk (f row) = pk row) (k' : Nat) :
    (t.touch k f hpk).table.find k' = t.table.find k' ∨
      (k' = k ∧ ∃ row, t.table.find k = some row ∧
        (t.touch k f hpk).table.find k' = some (f row)) := by
  unfold touch
  split
  · rename_i row hheld hfind
    by_cases hk : k' = k
    · subst hk
      exact .inr ⟨rfl, row, hfind, find_put_self hfind (hpk row)⟩
    · exact .inl (find_put_of_ne hfind (hpk row) hk)
  · exact .inl rfl

/-- A row that nobody has locked is changed, if it is there. -/
theorem find_touch_of_free {t : LockedTable R χ} {k : Nat} (hheld : t.held k = none) (f : R → R)
    (hpk : ∀ row, pk (f row) = pk row) (k' : Nat) :
    (t.touch k f hpk).table.find k' =
      if k' = k then (t.table.find k').map f else t.table.find k' := by
  unfold touch
  split
  · rename_i row _ hfind
    by_cases hk : k' = k
    · subst hk
      rw [if_pos rfl]
      exact (find_put_self hfind (hpk row)).trans (congrArg (Option.map f) hfind).symm
    · rw [if_neg hk]
      exact find_put_of_ne hfind (hpk row) hk
  · rename_i hnot
    have hnone : t.table.find k = none := by
      cases hfind : t.table.find k with
      | none => rfl
      | some row => exact absurd hfind (hnot row hheld)
    by_cases hk : k' = k
    · subst hk
      rw [if_pos rfl, hnone]
      rfl
    · rw [if_neg hk]

/-- Release every lock held for `p`. -/
def releaseWhere (t : LockedTable R χ) (p : χ → Bool) : LockedTable R χ :=
  { t with
    held := fun k => (t.held k).filter (fun entry => !p entry.1)
    current := by
      intro k holder copy h
      exact t.current k holder copy (Option.filter_eq_some_iff.1 h).1 }

@[simp] theorem table_releaseWhere (t : LockedTable R χ) (p : χ → Bool) :
    (t.releaseWhere p).table = t.table := rfl

theorem held_releaseWhere {t : LockedTable R χ} {p : χ → Bool} {k : Nat} {holder : χ} {copy : R} :
    (t.releaseWhere p).held k = some (holder, copy) ↔
      t.held k = some (holder, copy) ∧ p holder = false := by
  show (t.held k).filter (fun entry => !p entry.1) = some (holder, copy) ↔ _
  rw [Option.filter_eq_some_iff, Bool.not_eq_true']

/-- Locking a row takes no lock away from anybody. -/
theorem held_lock {t : LockedTable R χ} {k k' : Nat} {holder holder' : χ} {copy : R}
    (h : t.held k' = some (holder', copy)) :
    (t.lock k holder).held k' = some (holder', copy) := by
  unfold lock
  split
  · rename_i row hheld hfind
    have hk : k' ≠ k := by
      rintro rfl
      rw [hheld] at h
      cases h
    exact (Function.update_of_ne hk _ _).trans h
  · exact h

theorem held_lock_self {t : LockedTable R χ} {k : Nat} {holder : χ} {row : R}
    (hheld : t.held k = none) (hfind : t.table.find k = some row) :
    (t.lock k holder).held k = some (holder, row) := by
  unfold lock
  split
  · rename_i row' _ hfind'
    rw [hfind] at hfind'
    cases hfind'
    exact Function.update_self _ _ _
  · rename_i hnot
    exact absurd hfind (hnot row hheld)

/-- Saving a row leaves the locks of the other rows alone. -/
theorem held_save_of_ne (t : LockedTable R χ) {k k' : Nat} (hk : k' ≠ k) (f : R → R → R)
    (hpk : ∀ copy row, pk copy = pk row → pk (f copy row) = pk row) :
    (t.save k f hpk).held k' = t.held k' := by
  unfold save
  split
  · exact Function.update_of_ne hk _ _
  · rfl

/-! ## Rows over time -/

/-- Every row is still there, changed as `E` allows. -/
def Evolves (E : R → R → Prop) (t t' : LockedTable R χ) : Prop :=
  ∀ k row, t.table.find k = some row → ∃ row', t'.table.find k = some row' ∧ E row row'

variable {E : R → R → Prop} {t t' t'' : LockedTable R χ}

theorem Evolves.of_table_eq (hrefl : ∀ row, E row row) (h : t'.table = t.table) :
    Evolves E t t' := by
  intro k row hrow
  exact ⟨row, by rw [h]; exact hrow, hrefl row⟩

theorem Evolves.save (hrefl : ∀ row, E row row) {k : Nat} {holder : χ} {copy : R}
    (hheld : t.held k = some (holder, copy)) {f : R → R → R}
    (hpk : ∀ copy row, pk copy = pk row → pk (f copy row) = pk row) (hE : E copy (f copy copy)) :
    Evolves E t (t.save k f hpk) := by
  intro k' row hrow
  rw [find_save hheld]
  by_cases hk : k' = k
  · subst hk
    rw [t.current k' holder copy hheld] at hrow
    cases hrow
    exact ⟨_, if_pos rfl, hE⟩
  · exact ⟨row, (if_neg hk).trans hrow, hrefl row⟩

theorem Evolves.touch (hrefl : ∀ row, E row row) {k : Nat} {f : R → R}
    (hpk : ∀ row, pk (f row) = pk row) (hE : ∀ row, E row (f row)) :
    Evolves E t (t.touch k f hpk) := by
  intro k' row hrow
  rcases find_touch (t := t) k f hpk k' with hsame | ⟨rfl, row', hrow', hchanged⟩
  · exact ⟨row, hsame.trans hrow, hrefl row⟩
  · rw [hrow] at hrow'
    cases hrow'
    exact ⟨_, hchanged, hE row⟩

theorem Evolves.insert (hrefl : ∀ row, E row row) {mk : Nat → R} {hpk : ∀ n, pk (mk n) = n} :
    Evolves E t (t.insert mk hpk) := by
  intro k row hrow
  refine ⟨row, ?_, hrefl row⟩
  have hne : k ≠ t.table.next := by
    rintro rfl
    rw [t.table.find_next (Nat.le_refl _)] at hrow
    cases hrow
  show (t.table.create mk hpk).find k = some row
  rw [Table.find_create, if_neg hne]
  exact hrow

end LockedTable

end Foundations
end RosarioDairy
