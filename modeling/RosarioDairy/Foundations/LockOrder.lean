import Mathlib.Logic.Function.Basic
import Mathlib.Logic.Relation
import Mathlib.Order.Basic
import RosarioDairy.Foundations.Checked

/-!
# LockOrder — locks taken in one order cannot deadlock

Any number of lockers run programs of statements.  A statement looks at the data once and then asks
for its locks one by one; a lock belongs to one locker until that locker leaves.  What the data look
like is up to each statement.  If every program asks for locks in ascending order of one rank, whatever
its statements see, then no lockers wait for each other in a circle.
-/

namespace RosarioDairy
namespace Foundations

/-- What is left to do: the locks the current statement still asks for, and the later statements. -/
structure Locker (L Stmt : Type) where
  pending : List L
  rest : List Stmt

/-- Who owns each lock, and who is at work. -/
structure LockState (L Stmt : Type) where
  owner : L → Option Nat
  lockers : Nat → Option (Locker L Stmt)

/-- One step of a locker: it starts on its work, looks at the data for its next statement, takes the
lock it asks for, passes over a row that does not qualify any more, or leaves with all its locks. -/
inductive LockAction (Work View : Type)
  | enter (p : Nat) (work : Work)
  | look (p : Nat) (view : View)
  | acquire (p : Nat)
  | pass (p : Nat)
  | leave (p : Nat)

/-- How work is written as statements and what a statement asks for. -/
structure LockRules (L Stmt Work View : Type) where
  program : Work → List Stmt
  locksOf : View → Stmt → List L

namespace LockState

variable {L Stmt Work View : Type}

/-- Nobody is at work. -/
def idle : LockState L Stmt :=
  { owner := fun _ => none
    lockers := fun _ => none }

def put (S : LockState L Stmt) (p : Nat) (locker : Option (Locker L Stmt)) : LockState L Stmt :=
  { S with lockers := Function.update S.lockers p locker }

@[simp] theorem lockers_put_self (S : LockState L Stmt) (p : Nat)
    (locker : Option (Locker L Stmt)) : (S.put p locker).lockers p = locker :=
  Function.update_self _ _ _

theorem lockers_put_of_ne (S : LockState L Stmt) {p q : Nat} (h : q ≠ p)
    (locker : Option (Locker L Stmt)) : (S.put p locker).lockers q = S.lockers q :=
  Function.update_of_ne h _ _

def enter (rules : LockRules L Stmt Work View) (S : LockState L Stmt) (p : Nat) (work : Work) :
    LockState L Stmt :=
  match S.lockers p with
  | some _ => S
  | none => S.put p (some { pending := [], rest := rules.program work })

def look (rules : LockRules L Stmt Work View) (S : LockState L Stmt) (p : Nat) (view : View) :
    LockState L Stmt :=
  match S.lockers p with
  | some { pending := [], rest := stmt :: rest } =>
      S.put p (some { pending := rules.locksOf view stmt, rest := rest })
  | _ => S

def pass (S : LockState L Stmt) (p : Nat) : LockState L Stmt :=
  match S.lockers p with
  | some { pending := _ :: pending, rest := rest } =>
      S.put p (some { pending := pending, rest := rest })
  | _ => S

/-- Commit or rollback: every lock is released. -/
def leave (S : LockState L Stmt) (p : Nat) : LockState L Stmt :=
  { S.put p none with owner := fun l => if S.owner l = some p then none else S.owner l }

/-- `p` asks for a lock that `q` owns. -/
def WaitsFor (S : LockState L Stmt) (p q : Nat) : Prop :=
  ∃ l pending rest, S.lockers p = some { pending := l :: pending, rest := rest } ∧
    S.owner l = some q ∧ q ≠ p

/-- `p` waits, through others, for itself. -/
def Deadlocked (S : LockState L Stmt) (p : Nat) : Prop :=
  Relation.TransGen S.WaitsFor p p

variable [DecidableEq L]

/-- The next lock is taken as soon as no other locker owns it. -/
def acquire (S : LockState L Stmt) (p : Nat) : LockState L Stmt :=
  match S.lockers p with
  | some { pending := l :: pending, rest := rest } =>
      if S.owner l = none ∨ S.owner l = some p then
        { S.put p (some { pending := pending, rest := rest }) with
          owner := Function.update S.owner l (some p) }
      else S
  | _ => S

def step (rules : LockRules L Stmt Work View) (S : LockState L Stmt) :
    LockAction Work View → LockState L Stmt
  | .enter p work => S.enter rules p work
  | .look p view => S.look rules p view
  | .acquire p => S.acquire p
  | .pass p => S.pass p
  | .leave p => S.leave p

def run (rules : LockRules L Stmt Work View) (actions : List (LockAction Work View)) :
    LockState L Stmt :=
  runAll (step rules) idle actions

end LockState

/-! ## Programs in order -/

section Order

variable {L Stmt Work View κ : Type} [PartialOrder κ]

namespace LockRules

/-- Each statement asks for its locks in ascending order, and for none that ranks below those of an
earlier statement. -/
structure Ascending (rules : LockRules L Stmt Work View) (rank : L → κ) : Prop where
  within : ∀ work, ∀ stmt ∈ rules.program work, ∀ view,
    (rules.locksOf view stmt).Pairwise (fun l l' => rank l ≤ rank l')
  across : ∀ work, (rules.program work).Pairwise (fun stmt stmt' =>
    ∀ view view', ∀ l ∈ rules.locksOf view stmt, ∀ l' ∈ rules.locksOf view' stmt',
      rank l ≤ rank l')

end LockRules

/-- A lock the locker may still ask for. -/
def Locker.Asks (rules : LockRules L Stmt Work View) (locker : Locker L Stmt) (l : L) : Prop :=
  l ∈ locker.pending ∨ ∃ stmt ∈ locker.rest, ∃ view, l ∈ rules.locksOf view stmt

/-- What is left of a program in order. -/
structure Locker.InOrder (rules : LockRules L Stmt Work View) (rank : L → κ)
    (locker : Locker L Stmt) : Prop where
  pending : locker.pending.Pairwise (fun l l' => rank l ≤ rank l')
  later : ∀ l ∈ locker.pending, ∀ stmt ∈ locker.rest, ∀ view, ∀ l' ∈ rules.locksOf view stmt,
    rank l ≤ rank l'
  within : ∀ stmt ∈ locker.rest, ∀ view,
    (rules.locksOf view stmt).Pairwise (fun l l' => rank l ≤ rank l')
  across : locker.rest.Pairwise (fun stmt stmt' =>
    ∀ view view', ∀ l ∈ rules.locksOf view stmt, ∀ l' ∈ rules.locksOf view' stmt',
      rank l ≤ rank l')

/-- Whoever owns a lock is at work and asks for nothing that ranks below it. -/
structure LockState.Ordered (rules : LockRules L Stmt Work View) (rank : L → κ)
    (S : LockState L Stmt) : Prop where
  lockers : ∀ p locker, S.lockers p = some locker → locker.InOrder rules rank
  owned : ∀ l p, S.owner l = some p →
    ∃ locker, S.lockers p = some locker ∧ ∀ l', locker.Asks rules l' → rank l ≤ rank l'

namespace LockState

variable {rules : LockRules L Stmt Work View} {rank : L → κ} {S : LockState L Stmt}

theorem Ordered.idle : (idle : LockState L Stmt).Ordered rules rank :=
  { lockers := fun p locker h => by cases h
    owned := fun l p h => by cases h }

/-- A locker goes on with less to ask for, or a new one starts. -/
theorem Ordered.put {p : Nat} {locker : Locker L Stmt} (h : S.Ordered rules rank)
    (horder : locker.InOrder rules rank)
    (hless : ∀ l, S.owner l = some p → ∀ l', locker.Asks rules l' → rank l ≤ rank l') :
    (S.put p (some locker)).Ordered rules rank := by
  refine ⟨?_, ?_⟩
  · intro q locker' hq
    by_cases hpq : q = p
    · subst hpq
      rw [lockers_put_self] at hq
      cases hq
      exact horder
    · rw [lockers_put_of_ne S hpq] at hq
      exact h.lockers q locker' hq
  · intro l q hq
    by_cases hpq : q = p
    · subst hpq
      exact ⟨locker, lockers_put_self S q _, hless l hq⟩
    · rcases h.owned l q hq with ⟨locker', hlocker', hasks⟩
      exact ⟨locker', (lockers_put_of_ne S hpq _).trans hlocker', hasks⟩

/-- What a locker asks for after its next statement, it asked for before. -/
theorem asks_look {rest : List Stmt} {stmt : Stmt} {view : View} {l : L}
    (h : Locker.Asks rules { pending := rules.locksOf view stmt, rest := rest } l) :
    Locker.Asks rules { pending := [], rest := stmt :: rest } l := by
  rcases h with hnow | ⟨stmt', hstmt', view', hlater⟩
  · exact .inr ⟨stmt, List.mem_cons_self, view, hnow⟩
  · exact .inr ⟨stmt', List.mem_cons_of_mem _ hstmt', view', hlater⟩

theorem asks_tail {pending : List L} {rest : List Stmt} {l l' : L}
    (h : Locker.Asks rules { pending := pending, rest := rest } l') :
    Locker.Asks rules { pending := l :: pending, rest := rest } l' := by
  rcases h with hnow | hlater
  · exact .inl (List.mem_cons_of_mem _ hnow)
  · exact .inr hlater

theorem inOrder_tail {pending : List L} {rest : List Stmt} {l : L}
    (h : Locker.InOrder rules rank { pending := l :: pending, rest := rest }) :
    Locker.InOrder rules rank { pending := pending, rest := rest } :=
  { pending := h.pending.of_cons
    later := fun l' hl' => h.later l' (List.mem_cons_of_mem _ hl')
    within := h.within
    across := h.across }

/-- The lock a locker asks for next ranks lowest among those it asks for. -/
theorem next_le {pending : List L} {rest : List Stmt} {l l' : L}
    (h : Locker.InOrder rules rank { pending := l :: pending, rest := rest })
    (hasks : Locker.Asks rules { pending := pending, rest := rest } l') : rank l ≤ rank l' := by
  rcases hasks with hnow | ⟨stmt, hstmt, view, hlater⟩
  · exact List.rel_of_pairwise_cons h.pending hnow
  · exact h.later l List.mem_cons_self stmt hstmt view l' hlater

theorem Ordered.look (h : S.Ordered rules rank) (p : Nat) (view : View) :
    (S.look rules p view).Ordered rules rank := by
  unfold LockState.look
  split
  · rename_i stmt rest hp
    have horder := h.lockers p _ hp
    refine h.put ?_ ?_
    · exact
        { pending := horder.within stmt List.mem_cons_self view
          later := fun l hl stmt' hstmt' view' l' hl' =>
            List.rel_of_pairwise_cons horder.across hstmt' view view' l hl l' hl'
          within := fun stmt' hstmt' => horder.within stmt' (List.mem_cons_of_mem _ hstmt')
          across := horder.across.of_cons }
    · intro l hl l' hasks
      rcases h.owned l p hl with ⟨locker, hlocker, hle⟩
      rw [hp] at hlocker
      cases hlocker
      exact hle l' (asks_look hasks)
  · exact h

theorem Ordered.pass (h : S.Ordered rules rank) (p : Nat) : (S.pass p).Ordered rules rank := by
  unfold LockState.pass
  split
  · rename_i l pending rest hp
    refine h.put (inOrder_tail (h.lockers p _ hp)) ?_
    intro l' hl' l'' hasks
    rcases h.owned l' p hl' with ⟨locker, hlocker, hle⟩
    rw [hp] at hlocker
    cases hlocker
    exact hle l'' (asks_tail hasks)
  · exact h

theorem Ordered.enter (hrules : rules.Ascending rank) (h : S.Ordered rules rank) (p : Nat)
    (work : Work) : (S.enter rules p work).Ordered rules rank := by
  unfold LockState.enter
  split
  · exact h
  · rename_i hp
    refine h.put ?_ ?_
    · exact
        { pending := List.Pairwise.nil
          later := fun l hl => by cases hl
          within := hrules.within work
          across := hrules.across work }
    · intro l hl
      rcases h.owned l p hl with ⟨locker, hlocker, _⟩
      rw [hp] at hlocker
      cases hlocker

theorem Ordered.leave (h : S.Ordered rules rank) (p : Nat) : (S.leave p).Ordered rules rank := by
  refine ⟨?_, ?_⟩
  · intro q locker hq
    by_cases hpq : q = p
    · subst hpq
      exact absurd ((lockers_put_self S q none).symm.trans hq) (by simp)
    · exact h.lockers q locker ((lockers_put_of_ne S hpq none).symm.trans hq)
  · intro l q hq
    simp only [LockState.leave] at hq
    split at hq
    · cases hq
    · rename_i hne
      have hpq : q ≠ p := by
        rintro rfl
        exact hne hq
      rcases h.owned l q hq with ⟨locker, hlocker, hle⟩
      exact ⟨locker, (lockers_put_of_ne S hpq none).trans hlocker, hle⟩

section Steps

variable [DecidableEq L]

/-- The lock that was taken ranks below all that is asked for from now on. -/
theorem Ordered.acquire (h : S.Ordered rules rank) (p : Nat) :
    (S.acquire p).Ordered rules rank := by
  unfold LockState.acquire
  split
  · rename_i l pending rest hp
    split
    · have horder := h.lockers p _ hp
      have hput : (S.put p (some { pending := pending, rest := rest })).Ordered rules rank := by
        refine h.put (inOrder_tail horder) ?_
        intro l' hl' l'' hasks
        rcases h.owned l' p hl' with ⟨locker, hlocker, hle⟩
        rw [hp] at hlocker
        cases hlocker
        exact hle l'' (asks_tail hasks)
      refine ⟨hput.lockers, ?_⟩
      intro l' q hq
      by_cases hl : l' = l
      · subst hl
        have hpq : p = q := by
          simpa using hq
        subst hpq
        exact ⟨_, lockers_put_self S p _, fun l'' hasks => next_le horder hasks⟩
      · have hq' : S.owner l' = some q := by
          rw [← hq]
          exact (Function.update_of_ne hl _ _).symm
        exact hput.owned l' q hq'
    · exact h
  · exact h

theorem Ordered.step (hrules : rules.Ascending rank) (h : S.Ordered rules rank)
    (action : LockAction Work View) : (S.step rules action).Ordered rules rank := by
  cases action with
  | enter p work => exact h.enter hrules p work
  | look p view => exact h.look p view
  | acquire p => exact h.acquire p
  | pass p => exact h.pass p
  | leave p => exact h.leave p

theorem run_ordered (hrules : rules.Ascending rank) (actions : List (LockAction Work View)) :
    (run rules actions).Ordered rules rank :=
  runAll_preserves (P := fun (S : LockState L Stmt) => S.Ordered rules rank)
    (fun _ action h => h.step hrules action) actions Ordered.idle

end Steps

/-! ## No cycle -/

/-- Who waits owns nothing that ranks above the lock it waits for. -/
theorem Ordered.le_next (h : S.Ordered rules rank) {p : Nat} {l l' : L} {pending : List L}
    {rest : List Stmt} (howner : S.owner l = some p)
    (hp : S.lockers p = some { pending := l' :: pending, rest := rest }) : rank l ≤ rank l' := by
  rcases h.owned l p howner with ⟨locker, hlocker, hle⟩
  rw [hp] at hlocker
  cases hlocker
  exact hle l' (.inl List.mem_cons_self)

/-- Along a chain of waiting lockers the locks they wait for rank higher and higher. -/
theorem Ordered.waits_lt (h : S.Ordered rules rank) (hrank : Function.Injective rank) {p q r : Nat}
    (hpq : Relation.TransGen S.WaitsFor p q) (hqr : S.WaitsFor q r) {l l' : L}
    {pending pending' : List L} {rest rest' : List Stmt}
    (hp : S.lockers p = some { pending := l :: pending, rest := rest })
    (hq : S.lockers q = some { pending := l' :: pending', rest := rest' }) :
    rank l < rank l' := by
  -- one link: `q` owns the lock before it, and somebody else the lock it waits for
  have hlink : ∀ {p q r l l' pending pending' rest rest'}, S.WaitsFor p q → S.WaitsFor q r →
      S.lockers p = some { pending := l :: pending, rest := rest } →
      S.lockers q = some { pending := l' :: pending', rest := rest' } → rank l < rank l' := by
    intro p q r l l' pending pending' rest rest' ⟨l₁, _, _, hp₁, howner, _⟩
      ⟨l₂, _, _, hq₂, howner', hne⟩ hp hq
    rw [hp] at hp₁
    cases hp₁
    rw [hq] at hq₂
    cases hq₂
    refine lt_of_le_of_ne (h.le_next howner hq) ?_
    intro hEq
    rw [← hrank hEq, howner] at howner'
    exact hne (Option.some.inj howner').symm
  induction hpq generalizing r l' pending' rest' with
  | single hpq => exact hlink hpq hqr hp hq
  | tail hpm hmq ih =>
      rcases hmq with ⟨lm, pendingm, restm, hm, howner, hne⟩
      have hmq : S.WaitsFor _ _ := ⟨lm, pendingm, restm, hm, howner, hne⟩
      exact lt_trans (ih hmq hm) (hlink hmq hqr hm hq)

theorem Ordered.not_deadlocked (h : S.Ordered rules rank) (hrank : Function.Injective rank)
    (p : Nat) : ¬ S.Deadlocked p := by
  intro hcycle
  rcases Relation.TransGen.head'_iff.1 hcycle with ⟨q, hpq, _⟩
  rcases hpq with ⟨l, pending, rest, hp, howner, hne⟩
  exact lt_irrefl _ (h.waits_lt hrank hcycle ⟨l, pending, rest, hp, howner, hne⟩ hp hp)

/-- Lockers with ascending programs never deadlock. -/
theorem run_not_deadlocked [DecidableEq L] (hrules : rules.Ascending rank)
    (hrank : Function.Injective rank) (actions : List (LockAction Work View)) (p : Nat) :
    ¬ (run rules actions).Deadlocked p :=
  (run_ordered hrules actions).not_deadlocked hrank p

end LockState

end Order

end Foundations
end RosarioDairy
