import Mathlib.Logic.Function.Basic

/-!
# Memo — caches whose entries are right answers

A cache answers some keys with an entry left by an earlier call.  When only right answers are ever
stored, a call that looks into the cache first returns a right answer as well, whatever has been
evicted and whichever cache calls fail.
-/

namespace RosarioDairy
namespace Foundations

universe u v w

variable {K : Type u} {V : Type v} {E : Type w}

/-- A cache of a computation that may fail; every entry is what the computation returns. -/
structure Memo (answer : K → Except E V) where
  lookup : K → Option V
  right : ∀ key value, lookup key = some value → answer key = .ok value

namespace Memo

variable {answer : K → Except E V}

variable [DecidableEq K]

def store (memo : Memo answer) (key : K) (value : V) (hright : answer key = .ok value) :
    Memo answer :=
  { lookup := Function.update memo.lookup key (some value)
    right := by
      intro key' value' hlookup
      by_cases hkey : key' = key
      · subst hkey
        rw [Function.update_self] at hlookup
        rw [hright, Option.some.inj hlookup]
      · rw [Function.update_of_ne hkey] at hlookup
        exact memo.right key' value' hlookup }

/-- Which cache calls of a look-up succeed; a failed one is logged and passed over. -/
structure Reach where
  reads : Bool
  writes : Bool
  deriving DecidableEq, Repr

/-- Answer from the cache, or compute the answer and store it.  An error is not stored. -/
def serve (memo : Memo answer) (reach : Reach) (key : K) : Except E V × Memo answer :=
  match if reach.reads then memo.lookup key else none with
  | some value => (.ok value, memo)
  | none =>
      match hanswer : answer key with
      | .ok value => (.ok value, if reach.writes then memo.store key value hanswer else memo)
      | .error e => (.error e, memo)

/-- The cache cannot be told from the outside. -/
theorem serve_fst (memo : Memo answer) (reach : Reach) (key : K) :
    (memo.serve reach key).1 = answer key := by
  unfold serve
  cases hlookup : (if reach.reads then memo.lookup key else none) with
  | some value =>
      by_cases hreads : reach.reads = true
      · rw [if_pos hreads] at hlookup
        exact (memo.right key value hlookup).symm
      · simp [hreads] at hlookup
  | none =>
      simp only
      split
      · next value hanswer => exact hanswer.symm
      · next e hanswer => exact hanswer.symm

end Memo

end Foundations
end RosarioDairy
