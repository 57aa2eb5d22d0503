import RosarioDairy.Foundations.Table

/-!
# UniqueKeys — rows told apart by a computed key

A table is unique by a key when no two of its rows have the same one, and a row may be saved when no
other row has its key.
-/

namespace RosarioDairy
namespace Foundations
namespace Table

open Row

variable {R α : Type} [Row R] {t : Table R} {key : R → α}

/-- No two rows have the same key. -/
def UniqueBy (t : Table R) (key : R → α) : Prop :=
  ∀ row ∈ t.rows, ∀ other ∈ t.rows, key row = key other → pk row = pk other

theorem uniqueBy_empty : (empty : Table R).UniqueBy key := by
  intro row hrow
  cases hrow

theorem UniqueBy.create (h : t.UniqueBy key) {mk : Nat → R} {hpk : ∀ n, pk (mk n) = n}
    (hfree : ∀ row ∈ t.rows, key row ≠ key (mk t.next)) : (t.create mk hpk).UniqueBy key := by
  intro row hrow other hother hsame
  rcases List.mem_append.1 hrow with hold | hnew
  · rcases List.mem_append.1 hother with hold' | hnew'
    · exact h row hold other hold' hsame
    · cases List.mem_singleton.1 hnew'
      exact absurd hsame (hfree row hold)
  · cases List.mem_singleton.1 hnew
    rcases List.mem_append.1 hother with hold' | hnew'
    · exact absurd hsame.symm (hfree other hold')
    · rw [List.mem_singleton.1 hnew']

theorem UniqueBy.put (h : t.UniqueBy key) {new : R}
    (hfree : ∀ row ∈ t.rows, pk row ≠ pk new → key row ≠ key new) : (t.put new).UniqueBy key := by
  intro row hrow other hother hsame
  rcases mem_put.1 hrow with ⟨hold, hne⟩ | ⟨rfl, -⟩
  · rcases mem_put.1 hother with ⟨hold', -⟩ | ⟨rfl, -⟩
    · exact h row hold other hold' hsame
    · exact absurd hsame (hfree row hold hne)
  · rcases mem_put.1 hother with ⟨hold', hne'⟩ | ⟨rfl, -⟩
    · exact absurd hsame.symm (hfree other hold' hne')
    · rfl

end Table
end Foundations
end RosarioDairy
