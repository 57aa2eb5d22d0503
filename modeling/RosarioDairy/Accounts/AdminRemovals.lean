import Mathlib.Data.List.Sort
import RosarioDairy.Accounts.UserServices

/-!
# AdminRemovals — account changes of administrators, interleaved

`update_user` and `deactivate_user` lock the active administrators, then the user they change, count
the other active administrators and save.  The locking statement looks for its rows in one snapshot
and locks them later, row by row; a row that does not qualify any more is passed over.  Two removals
whose snapshots are both out of date may therefore share no lock, count each other's target, and
remove the last two administrators.  That is the only way: as long as every removal counts while it
has another active administrator locked, or while no other removal waits for its commit, an active
administrator is left.
-/

namespace RosarioDairy
namespace Accounts

open Foundations

/-- The rows the guard counts. -/
def Users.isActiveAdmin (user : Users) : Bool := user.role = .admin && user.isActive

/-- A call of one of the two services. -/
inductive AdminOp
  | updateUser (pk : Nat) (edit : AdminEdit) (requestingUser : Nat)
  | deactivateUser (pk requestingUser : Nat) (reason : Input DeactivationReason)

def AdminOp.target : AdminOp → Nat
  | .updateUser pk _ _ => pk
  | .deactivateUser pk _ _ => pk

/-- The checks and the save of a service on the locked user, with the committed rows its queries see.
The challenges of users are of no concern here. -/
def AdminOp.run (fw : Framework) (users : List Users) (user : Users) :
    AdminOp → Except Error UserChange
  | .updateUser _ edit requestingUser =>
      Accounts.updateUser fw users edit requestingUser user
        { resets := fun _ => none, emailChanges := fun _ => none }
  | .deactivateUser _ requestingUser reason =>
      Accounts.deactivateUser users requestingUser reason user
        { resets := fun _ => none, emailChanges := fun _ => none }

/-- The request is to take an active administrator away. -/
def AdminOp.asksRemoval (user : Users) : AdminOp → Bool
  | .updateUser _ edit _ => user.isActiveAdmin &&
      (edit.role = some (.given .staff) || edit.isActive = some (.given false))
  | .deactivateUser _ _ _ => user.isActiveAdmin

/-- How far a transaction has come: the administrators it has still to lock, the user it has locked,
or the change it will commit. -/
inductive AdminPhase
  | started
  | locking (rest : List Nat)
  | located (user : Users)
  | saved (user : Users) (change : UserChange)

/-- The locked copy a transaction works on. -/
def AdminPhase.copy : AdminPhase → Option Users
  | .started => none
  | .locking _ => none
  | .located user => some user
  | .saved user _ => some user

structure AdminTxn where
  op : AdminOp
  phase : AdminPhase

/-- The committed users with their row locks, held for a transaction, and the open transactions. -/
structure AdminDesk where
  users : LockedTable Users Nat
  txns : Nat → Option AdminTxn

/-- One step of a transaction.  `keep` says whether a row that is passed over stays locked. -/
inductive AdminAction
  | enter (t : Nat) (op : AdminOp)
  | takeSnapshot (t : Nat)
  | lockNext (t : Nat) (keep : Bool)
  | lockTarget (t : Nat)
  | save (t : Nat)
  | commit (t : Nat)
  | abort (t : Nat)

namespace AdminDesk

def opened (users : Table Users) : AdminDesk :=
  { users := .unlocked users
    txns := fun _ => none }

def put (D : AdminDesk) (t : Nat) (txn : Option AdminTxn) : AdminDesk :=
  { D with txns := Function.update D.txns t txn }

/-- Rollback: every lock is released and nothing is written. -/
def abort (D : AdminDesk) (t : Nat) : AdminDesk :=
  { D.put t none with users := D.users.releaseWhere (fun holder => holder = t) }

/-- The keys of the active administrators of the snapshot, in the order they are locked. -/
def adminPks (users : Table Users) : List Nat :=
  ((users.rows.filter Users.isActiveAdmin).map Users.pk).insertionSort (· ≤ ·)

def enter (D : AdminDesk) (t : Nat) (op : AdminOp) : AdminDesk :=
  match D.txns t with
  | some _ => D
  | none => D.put t (some { op := op, phase := .started })

def takeSnapshot (D : AdminDesk) (t : Nat) : AdminDesk :=
  match D.txns t with
  | some { op := op, phase := .started } =>
      D.put t (some { op := op, phase := .locking (adminPks D.users.table) })
  | _ => D

/-- The next administrator of the snapshot: the transaction waits while another one has locked the
row, and then looks at its latest committed version. -/
def lockNext (D : AdminDesk) (t : Nat) (keep : Bool) : AdminDesk :=
  match D.txns t with
  | some { op := op, phase := .locking (k :: rest) } =>
      let next := D.put t (some { op := op, phase := .locking rest })
      match D.users.held k with
      | some (holder, _) => if holder = t then next else D
      | none =>
          if (D.users.table.find k).any Users.isActiveAdmin || keep then
            { next with users := D.users.lock k t }
          else next
  | _ => D

/-- `select_for_update().get(pk=pk)`. -/
def lockTarget (D : AdminDesk) (t : Nat) : AdminDesk :=
  match D.txns t with
  | some { op := op, phase := .locking [] } =>
      match D.users.held op.target with
      | some (holder, user) =>
          if holder = t then D.put t (some { op := op, phase := .located user }) else D
      | none =>
          match D.users.table.find op.target with
          | none => D.abort t
          | some user =>
              { D.put t (some { op := op, phase := .located user }) with
                users := D.users.lock op.target t }
  | _ => D

/-- The checks, the count on a fresh snapshot among them, and the write. -/
def save (fw : Framework) (D : AdminDesk) (t : Nat) : AdminDesk :=
  match D.txns t with
  | some { op := op, phase := .located user } =>
      match op.run fw D.users.table.rows user with
      | .error _ => D.abort t
      | .ok change => D.put t (some { op := op, phase := .saved user change })
  | _ => D

def commit (D : AdminDesk) (t : Nat) : AdminDesk :=
  match D.txns t with
  | some { op := op, phase := .saved _ change } =>
      { D.put t none with
        users := (D.users.save op.target (fun _ row => change.save.onto row)
          change.onto_pk).releaseWhere (fun holder => holder = t) }
  | _ => D

def step (fw : Framework) (D : AdminDesk) : AdminAction → AdminDesk
  | .enter t op => D.enter t op
  | .takeSnapshot t => D.takeSnapshot t
  | .lockNext t keep => D.lockNext t keep
  | .lockTarget t => D.lockTarget t
  | .save t => D.save fw t
  | .commit t => D.commit t
  | .abort t => D.abort t

def run (fw : Framework) (D : AdminDesk) (actions : List AdminAction) : AdminDesk :=
  runAll (step fw) D actions

/-! ## What is asked of a removal -/

/-- A committed user is an active administrator. -/
def HasAdmin (D : AdminDesk) : Prop :=
  ∃ user ∈ D.users.table.rows, user.isActiveAdmin = true

/-- The change takes an active administrator away. -/
def Removes (user : Users) (change : UserChange) : Prop :=
  user.isActiveAdmin = true ∧ (change.save.onto user).isActiveAdmin = false

/-- An open transaction has written, but not committed, the removal of the user. -/
def IsRemoving (D : AdminDesk) (t pk : Nat) : Prop :=
  ∃ op user change, D.txns t = some { op := op, phase := .saved user change } ∧ user.pk = pk ∧
    Removes user change

/-- The transaction has the row of an active administrator other than `pk` locked. -/
def LocksOther (D : AdminDesk) (t pk : Nat) : Prop :=
  ∃ k other, D.users.held k = some (t, other) ∧ other.isActiveAdmin = true ∧ other.pk ≠ pk

/-- When a removal makes its count, its transaction has another active administrator locked, or no
other removal waits for its commit. -/
def RemovesApart (D : AdminDesk) : AdminAction → Prop
  | .save t => ∀ op user, D.txns t = some { op := op, phase := .located user } →
      op.asksRemoval user = true → D.LocksOther t user.pk ∨ ∀ t' pk, ¬ D.IsRemoving t' pk
  | _ => True

/-- So it is at every step of the run. -/
def RunRemovesApart (fw : Framework) : AdminDesk → List AdminAction → Prop
  | _, [] => True
  | D, action :: actions => D.RemovesApart action ∧ RunRemovesApart fw (D.step fw action) actions

/-! ## What the guard has seen -/

theorem typedField_eq_some {α : Type} {field : Option (Input α)} {e : Error} {value : α}
    (h : typedField field e = .ok (some value)) : field = some (.given value) := by
  unfold typedField at h
  split at h
  · cases h
  · cases h
    rfl
  · cases h

/-- An edit that takes an active administrator away asks for it and has seen another one. -/
theorem updateUser_removes {fw : Framework} {users : List Users} {edit : AdminEdit}
    {requestingUser : Nat} {user : Users} {challenges : Challenges} {change : UserChange}
    (h : updateUser fw users edit requestingUser user challenges = .ok change)
    (hremoves : Removes user change) :
    (edit.role = some (.given .staff) ∨ edit.isActive = some (.given false)) ∧
      OtherAdmin users user := by
  unfold updateUser at h
  rcases require_bind_eq_ok.1 h with ⟨_, h⟩
  rcases bind_eq_ok.1 h with ⟨isActive, hisActive, h⟩
  rcases bind_eq_ok.1 h with ⟨_, _, h⟩
  rcases bind_eq_ok.1 h with ⟨role, hrole, h⟩
  rcases bind_eq_ok.1 h with ⟨_, _, h⟩
  rcases bind_eq_ok.1 h with ⟨_, _, h⟩
  rcases bind_eq_ok.1 h with ⟨_, _, h⟩
  rcases require_bind_eq_ok.1 h with ⟨hguard, h⟩
  rcases bind_eq_ok.1 h with ⟨_, _, h⟩
  cases pure_eq_ok.1 h
  rcases hremoves with ⟨hadmin, hgone⟩
  simp only [Users.isActiveAdmin, Bool.and_eq_true, decide_eq_true_eq] at hadmin
  simp only [Users.isActiveAdmin, UserSave.onto, Bool.and_eq_false_iff] at hgone
  rcases hgone with hdemoted | hinactive
  · -- the role is the one asked for, so it is that of the staff
    have hdemoted := of_decide_eq_false hdemoted
    refine ⟨.inl ?_, hguard (.inl ⟨hadmin.1, hdemoted⟩)⟩
    cases role with
    | none => exact absurd hadmin.1 hdemoted
    | some role =>
        cases role with
        | admin => exact absurd rfl hdemoted
        | staff => exact typedField_eq_some hrole
  · have hasked : isActive = some false := by
      cases isActive with
      | none =>
          rw [Option.getD_none, hadmin.2] at hinactive
          cases hinactive
      | some active =>
          rw [Option.getD_some] at hinactive
          rw [hinactive]
    subst hasked
    exact ⟨.inr (typedField_eq_some hisActive), hguard (.inr ⟨hadmin.1, hadmin.2, rfl⟩)⟩

theorem deactivateUser_removes {users : List Users} {requestingUser : Nat}
    {reason : Input DeactivationReason} {user : Users} {challenges : Challenges}
    {change : UserChange}
    (h : deactivateUser users requestingUser reason user challenges = .ok change)
    (hremoves : Removes user change) : OtherAdmin users user := by
  unfold deactivateUser at h
  rcases bind_eq_ok.1 h with ⟨_, _, h⟩
  rcases require_bind_eq_ok.1 h with ⟨_, h⟩
  rcases require_bind_eq_ok.1 h with ⟨_, h⟩
  rcases require_bind_eq_ok.1 h with ⟨hguard, h⟩
  have hadmin := hremoves.1
  simp only [Users.isActiveAdmin, Bool.and_eq_true, decide_eq_true_eq] at hadmin
  exact hguard hadmin.1

/-- Either service has asked for the removal it writes and counted another active administrator. -/
theorem run_removes {fw : Framework} {users : List Users} {op : AdminOp} {user : Users}
    {change : UserChange} (h : op.run fw users user = .ok change) (hremoves : Removes user change) :
    op.asksRemoval user = true ∧ OtherAdmin users user := by
  cases op with
  | updateUser pk edit requestingUser =>
      rcases updateUser_removes h hremoves with ⟨hasked, hother⟩
      refine ⟨?_, hother⟩
      simpa [AdminOp.asksRemoval, hremoves.1] using hasked
  | deactivateUser pk requestingUser reason =>
      exact ⟨hremoves.1, deactivateUser_removes h hremoves⟩

/-! ## An administrator stays -/

/-- Somebody other than `pk` is an active administrator whom no open transaction is removing. -/
def HasOther (D : AdminDesk) (pk : Nat) : Prop :=
  ∃ other ∈ D.users.table.rows, other.isActiveAdmin = true ∧ other.pk ≠ pk ∧
    ∀ t, ¬ D.IsRemoving t other.pk

/-- A transaction that has found its target holds the lock of the row it has read, and some active
administrator is being removed by nobody. -/
structure Sound (D : AdminDesk) : Prop where
  holds : ∀ t txn user, D.txns t = some txn → txn.phase.copy = some user →
    D.users.held txn.op.target = some (t, user)
  staying : ∃ user ∈ D.users.table.rows, user.isActiveAdmin = true ∧
    ∀ t, ¬ D.IsRemoving t user.pk

section Steps

variable {fw : Framework} {D D' : AdminDesk} {t : Nat}

@[simp] theorem txns_put_self (txn : Option AdminTxn) : (D.put t txn).txns t = txn :=
  Function.update_self _ _ _

theorem txns_put_of_ne {t' : Nat} (h : t' ≠ t) (txn : Option AdminTxn) :
    (D.put t txn).txns t' = D.txns t' :=
  Function.update_of_ne h _ _

/-- The end of a transaction leaves the locks of the others alone. -/
theorem held_ended {users : LockedTable Users Nat} {t' k : Nat} {copy : Users} (ht : t' ≠ t)
    (h : users.held k = some (t', copy)) :
    (users.releaseWhere (fun holder => holder = t)).held k = some (t', copy) :=
  LockedTable.held_releaseWhere.2 ⟨h, decide_eq_false ht⟩

theorem isRemoving_congr {t' pk : Nat} (h : D'.txns t' = D.txns t') :
    D'.IsRemoving t' pk ↔ D.IsRemoving t' pk := by
  unfold IsRemoving
  rw [h]

/-- A step of one transaction that changes no committed row and writes no removal. -/
theorem Sound.move (h : D.Sound) (htable : D'.users.table = D.users.table)
    (hothers : ∀ t', t' ≠ t → D'.txns t' = D.txns t')
    (hheld : ∀ t' k copy, t' ≠ t → D.users.held k = some (t', copy) →
      D'.users.held k = some (t', copy))
    (hcopy : ∀ txn user, D'.txns t = some txn → txn.phase.copy = some user →
      D'.users.held txn.op.target = some (t, user))
    (hremoving : ∀ pk, ¬ D'.IsRemoving t pk) : D'.Sound := by
  refine ⟨?_, ?_⟩
  · intro t' txn user htxn huser
    by_cases ht : t' = t
    · subst ht
      exact hcopy txn user htxn huser
    · rw [hothers t' ht] at htxn
      exact hheld t' _ user ht (h.holds t' txn user htxn huser)
  · rcases h.staying with ⟨user, hmem, hadmin, hstays⟩
    refine ⟨user, by rw [htable]; exact hmem, hadmin, ?_⟩
    intro t' hremoves
    by_cases ht : t' = t
    · subst ht
      exact hremoving user.pk hremoves
    · exact hstays t' ((isRemoving_congr (hothers t' ht)).1 hremoves)

/-- A transaction that goes on to a phase before its save writes nothing. -/
theorem not_isRemoving_put (txn : AdminTxn) (hsaved : ∀ user change, txn.phase ≠ .saved user change)
    (pk : Nat) : ¬ (D.put t (some txn)).IsRemoving t pk := by
  rintro ⟨op, user, change, htxn, _⟩
  rw [txns_put_self] at htxn
  cases htxn
  exact hsaved user change rfl

theorem Sound.enter (h : D.Sound) (op : AdminOp) : (D.enter t op).Sound := by
  unfold AdminDesk.enter
  split
  · exact h
  · refine h.move (t := t) rfl (fun t' ht => txns_put_of_ne ht _) (fun _ _ _ _ hk => hk) ?_
      (not_isRemoving_put _ fun _ _ => by simp)
    intro txn user htxn huser
    rw [txns_put_self] at htxn
    cases htxn
    cases huser

theorem Sound.takeSnapshot (h : D.Sound) : (D.takeSnapshot t).Sound := by
  unfold AdminDesk.takeSnapshot
  split
  · refine h.move (t := t) rfl (fun t' ht => txns_put_of_ne ht _) (fun _ _ _ _ hk => hk) ?_
      (not_isRemoving_put _ fun _ _ => by simp)
    intro txn user htxn huser
    rw [txns_put_self] at htxn
    cases htxn
    cases huser
  · exact h

/-- Locking goes on with the next row, with one more lock or not. -/
theorem Sound.locking (h : D.Sound) {op : AdminOp} {rest : List Nat} (users : LockedTable Users Nat)
    (htable : users.table = D.users.table)
    (hheld : ∀ k entry, D.users.held k = some entry → users.held k = some entry) :
    Sound { D.put t (some { op := op, phase := .locking rest }) with users := users } := by
  refine h.move (t := t) htable (fun t' ht => txns_put_of_ne ht _)
    (fun _ k copy _ hk => hheld k _ hk) ?_ ?_
  · intro txn user htxn huser
    have hput := (txns_put_self (D := D) (t := t) _).symm.trans htxn
    cases hput
    cases huser
  · intro pk hremoving
    exact not_isRemoving_put (D := D) (t := t) { op := op, phase := .locking rest }
      (fun _ _ => by simp) pk hremoving

theorem Sound.lockNext (h : D.Sound) (keep : Bool) : (D.lockNext t keep).Sound := by
  unfold AdminDesk.lockNext
  split
  · rename_i op k rest _
    split
    · split
      · exact h.locking D.users rfl fun _ _ hk => hk
      · exact h
    · split
      · exact h.locking _ (LockedTable.table_lock _ _ _) fun _ _ hk => LockedTable.held_lock hk
      · exact h.locking D.users rfl fun _ _ hk => hk
  · exact h

theorem Sound.abort (h : D.Sound) : (D.abort t).Sound := by
  refine h.move (t := t) rfl (fun t' ht => txns_put_of_ne ht _) ?_ ?_ ?_
  · intro t' k copy ht hk
    exact held_ended ht hk
  · intro txn user htxn _
    have hput := (txns_put_self (D := D) (t := t) none).symm.trans htxn
    cases hput
  · rintro pk ⟨op, user, change, htxn, _⟩
    have hput := (txns_put_self (D := D) (t := t) none).symm.trans htxn
    cases hput

/-- The target is locked and read. -/
theorem Sound.located (h : D.Sound) {op : AdminOp} {user : Users}
    (users : LockedTable Users Nat) (htable : users.table = D.users.table)
    (hheld : ∀ k entry, D.users.held k = some entry → users.held k = some entry)
    (htarget : users.held op.target = some (t, user)) :
    Sound { D.put t (some { op := op, phase := .located user }) with users := users } := by
  refine h.move (t := t) htable (fun t' ht => txns_put_of_ne ht _)
    (fun _ k copy _ hk => hheld k _ hk) ?_ ?_
  · intro txn user' htxn huser
    have hput := (txns_put_self (D := D) (t := t) _).symm.trans htxn
    cases hput
    cases huser
    exact htarget
  · intro pk hremoving
    exact not_isRemoving_put (D := D) (t := t) { op := op, phase := .located user }
      (fun _ _ => by simp) pk hremoving

theorem Sound.lockTarget (h : D.Sound) : (D.lockTarget t).Sound := by
  unfold AdminDesk.lockTarget
  split
  · rename_i op _
    split
    · rename_i holder user hheld
      split
      · rename_i ht
        subst ht
        exact h.located D.users rfl (fun _ _ hk => hk) hheld
      · exact h
    · rename_i hfree
      split
      · exact h.abort
      · rename_i user hfind
        exact h.located _ (LockedTable.table_lock _ _ _) (fun _ _ hk => LockedTable.held_lock hk)
          (LockedTable.held_lock_self hfree hfind)
  · exact h

/-- Nobody else removes an active administrator whom a transaction has locked. -/
theorem Sound.hasOther_of_locks (h : D.Sound) {op : AdminOp} {user : Users}
    (htxn : D.txns t = some { op := op, phase := .located user })
    (hlocks : D.LocksOther t user.pk) : D.HasOther user.pk := by
  rcases hlocks with ⟨k, other, hheld, hadmin, hne⟩
  have hrow : D.users.table.find k = some other := D.users.current _ _ _ hheld
  have hpk : other.pk = k := (Table.find_eq_some.1 hrow).2
  refine ⟨other, (Table.find_eq_some.1 hrow).1, hadmin, hne, ?_⟩
  rintro t' ⟨op', user', change', htxn', hsame, _⟩
  -- whoever removes `other` holds its lock
  have hheld' := h.holds t' _ user' htxn' rfl
  have htarget' : user'.pk = op'.target :=
    (Table.find_eq_some.1 (D.users.current _ _ _ hheld')).2
  have hkey : op'.target = k := by rw [← htarget', hsame, hpk]
  rw [hkey, hheld] at hheld'
  cases hheld'
  rw [htxn] at htxn'
  cases htxn'

/-- A removal that is written counts somebody who stays: the administrator it has locked, or, with no
other removal under way, the one its guard has seen. -/
theorem Sound.hasOther (h : D.Sound) {op : AdminOp} {user : Users} {change : UserChange}
    (htxn : D.txns t = some { op := op, phase := .located user })
    (hrun : op.run fw D.users.table.rows user = .ok change) (hremoves : Removes user change)
    (hapart : D.RemovesApart (.save t)) : D.HasOther user.pk := by
  rcases run_removes hrun hremoves with ⟨hasked, hother⟩
  rcases hapart op user htxn hasked with hlocks | hnone
  · exact h.hasOther_of_locks htxn hlocks
  · rcases hother with ⟨other, hmem, hrole, hactive, hne⟩
    exact ⟨other, hmem, by simp [Users.isActiveAdmin, hrole, hactive], hne,
      fun t' => hnone t' other.pk⟩

/-- A written change; if it is a removal, somebody else stays. -/
theorem Sound.save (h : D.Sound) (hapart : D.RemovesApart (.save t)) :
    (D.save fw t).Sound := by
  unfold AdminDesk.save
  split
  · rename_i op user htxn
    split
    · exact h.abort
    · rename_i change hrun
      refine ⟨?_, ?_⟩
      · intro t' txn user' htxn' huser'
        by_cases ht : t' = t
        · -- `t` itself is now located with a saved copy, which claims no held row
          subst ht
          rw [txns_put_self] at htxn'
          cases htxn'
          cases huser'
          exact h.holds t' { op := op, phase := .located user } user htxn rfl
        · rw [txns_put_of_ne ht] at htxn'
          exact h.holds t' txn user' htxn' huser'
      · -- who stays: whoever the removal counted, or whoever stayed before
        have hstays : ∃ other ∈ D.users.table.rows, other.isActiveAdmin = true ∧
            (∀ t', ¬ D.IsRemoving t' other.pk) ∧ (Removes user change → user.pk ≠ other.pk) := by
          by_cases hremoves : Removes user change
          · rcases h.hasOther htxn hrun hremoves hapart with ⟨other, hmem, hadmin, hne, hkept⟩
            exact ⟨other, hmem, hadmin, hkept, fun _ => hne.symm⟩
          · rcases h.staying with ⟨other, hmem, hadmin, hkept⟩
            exact ⟨other, hmem, hadmin, hkept, fun hremoves' => absurd hremoves' hremoves⟩
        rcases hstays with ⟨other, hmem, hadmin, hkept, hne⟩
        refine ⟨other, hmem, hadmin, ?_⟩
        -- `t` removes nothing of `other`; every other transaction is untouched
        intro t' hremoving
        by_cases ht : t' = t
        · subst ht
          rcases hremoving with ⟨op', user', change', htxn', hpk, hremoves⟩
          rw [txns_put_self] at htxn'
          cases htxn'
          exact hne hremoves hpk
        · exact hkept t' ((isRemoving_congr (txns_put_of_ne ht _)).1 hremoving)
  · exact h

theorem Sound.commit (h : D.Sound) : (D.commit t).Sound := by
  unfold AdminDesk.commit
  split
  · rename_i op user change htxn
    have hheld : D.users.held op.target = some (t, user) := h.holds t _ user htxn rfl
    have hrow : D.users.table.find op.target = some user := D.users.current _ _ _ hheld
    have hpk : user.pk = op.target := (Table.find_eq_some.1 hrow).2
    refine ⟨?_, ?_⟩
    · intro t' txn user' htxn' huser'
      -- the transaction that commits is gone, so `t'` is another one
      have ht : t' ≠ t := by
        rintro rfl
        have hput := (txns_put_self (D := D) (t := t') none).symm.trans htxn'
        cases hput
      have hold := h.holds t' txn user' ((txns_put_of_ne ht none).symm.trans htxn') huser'
      have hother : txn.op.target ≠ op.target := by
        intro hEq
        rw [hEq, hheld] at hold
        exact ht (by cases hold; rfl)
      -- `t` releases its own locks only
      refine held_ended ht ?_
      rw [LockedTable.held_save_of_ne _ hother]
      exact hold
    · rcases h.staying with ⟨other, hmem, hadmin, hkept⟩
      have hothers : ∀ t', ∀ pk,
          IsRemoving
            { D.put t none with
              users := (D.users.save op.target (fun _ row => change.save.onto row)
                change.onto_pk).releaseWhere (fun holder => holder = t) }
            t' pk → D.IsRemoving t' pk := by
        -- a removal that is still under way afterwards was under way before
        rintro t' pk ⟨op', user', change', htxn', hrest⟩
        have ht : t' ≠ t := by
          rintro rfl
          have hput := (txns_put_self (D := D) (t := t') none).symm.trans htxn'
          cases hput
        exact ⟨op', user', change', (txns_put_of_ne ht none).symm.trans htxn', hrest⟩
      have hfind := fun k => LockedTable.find_save hheld (fun _ row => change.save.onto row)
        change.onto_pk k
      by_cases hsame : other.pk = op.target
      · -- the target itself was staying, so its change keeps it
        have hEq : other = user := by
          have hfound := D.users.table.find_of_mem hmem
          have hkey : Row.pk other = op.target := hsame
          rw [hkey, hrow] at hfound
          exact (Option.some.inj hfound).symm
        subst hEq
        have hstill : (change.save.onto other).isActiveAdmin = true := by
          by_contra hgone
          exact hkept t ⟨op, other, change, htxn, rfl, hadmin, Bool.eq_false_iff.2 hgone⟩
        have hsaved := hfind op.target
        rw [if_pos rfl] at hsaved
        refine ⟨_, (Table.find_eq_some.1 hsaved).1, hstill, ?_⟩
        intro t' hremoving
        refine hkept t' (hothers t' _ ?_)
        have hkey : (change.save.onto other).pk = other.pk := change.save.onto_pk other
        rw [← hkey]
        exact hremoving
      · have hfound := hfind other.pk
        -- another row: the save leaves it as it was
        rw [if_neg hsame] at hfound
        have hstored := hfound.trans (D.users.table.find_of_mem hmem)
        exact ⟨other, (Table.find_eq_some.1 hstored).1, hadmin,
          fun t' hremoving => hkept t' (hothers t' _ hremoving)⟩
  · exact h

theorem Sound.step (h : D.Sound) (action : AdminAction) (hapart : D.RemovesApart action) :
    (D.step fw action).Sound := by
  cases action with
  | enter t op => exact h.enter op
  | takeSnapshot t => exact h.takeSnapshot
  | lockNext t keep => exact h.lockNext keep
  | lockTarget t => exact h.lockTarget
  | save t => exact h.save hapart
  | commit t => exact h.commit
  | abort t => exact h.abort

theorem Sound.run (h : D.Sound) (fw : Framework) : ∀ actions, RunRemovesApart fw D actions →
    (D.run fw actions).Sound := by
  intro actions
  induction actions generalizing D with
  | nil => exact fun _ => h
  | cons action actions ih => exact fun hapart => ih (h.step action hapart.1) hapart.2

end Steps

/-! ## Runs -/

theorem sound_opened (users : Table Users) (h : ∃ user ∈ users.rows, user.isActiveAdmin = true) :
    (opened users).Sound := by
  rcases h with ⟨user, hmem, hadmin⟩
  refine ⟨?_, user, hmem, hadmin, ?_⟩
  · intro t txn user htxn _
    cases htxn
  · rintro t ⟨op, user, change, htxn, _⟩
    cases htxn

/-- As long as every removal counts with another active administrator locked, or with no other removal
written and not committed, an active administrator is left in every state. -/
theorem admin_stays (fw : Framework) (users : Table Users)
    (hadmin : ∃ user ∈ users.rows, user.isActiveAdmin = true) (actions : List AdminAction)
    (hapart : RunRemovesApart fw (opened users) actions) :
    ((opened users).run fw actions).HasAdmin := by
  rcases ((sound_opened users hadmin).run fw actions hapart).staying with ⟨user, hmem, hactive, _⟩
  exact ⟨user, hmem, hactive⟩

end AdminDesk

/-! ## Two runs -/

/-- A request that changes nothing but the role. -/
def roleEdit (role : Role) : AdminEdit :=
  { unknown := []
    username := none
    role := some (.given role)
    isActive := none
    deactivationReason := none
    email := none
    firstName := none
    lastName := none
    phoneNumber := none
    address := none
    currentPassword := none }

/-- A transaction from its start to its commit, nobody interfering. -/
def alone (t : Nat) (op : AdminOp) (admins : Nat) : List AdminAction :=
  [.enter t op, .takeSnapshot t] ++ List.replicate admins (.lockNext t true) ++
    [.lockTarget t, .save t, .commit t]

/-- One of two administrators deactivates the other. -/
theorem admin_stays_deactivated :
    ((AdminDesk.opened ((Table.empty.create (account .admin)).create (account .admin))).run .plain
      (alone 1 (.deactivateUser 2 1 (.given .leave)) 2)).HasAdmin := by
  refine AdminDesk.admin_stays .plain _ ⟨account .admin 1, by decide, rfl⟩ _ ?_
  refine ⟨trivial, trivial, trivial, trivial, trivial, ?_, trivial, trivial⟩
  -- the first administrator is locked from the snapshot on
  intro op user htxn _
  cases htxn
  exact .inl ⟨1, account .admin 1, rfl, rfl, by decide⟩

/-- User 1 is the only administrator, users 2, 3 and 4 are staff.  Users 3 and 4 are about to be
deactivated, by 1 and later by 2, with snapshots from before either was promoted; by the time the
deactivations go on, 3 and 4 are the only administrators. -/
def crossingRemovals : List AdminAction :=
  [.enter 1 (.deactivateUser 3 1 (.given .suspended)), .takeSnapshot 1] ++
    alone 2 (.updateUser 2 (roleEdit .admin) 1) 1 ++
    alone 2 (.updateUser 1 (roleEdit .staff) 2) 2 ++
    [.enter 3 (.deactivateUser 4 2 (.given .suspended)), .takeSnapshot 3] ++
    alone 2 (.updateUser 3 (roleEdit .admin) 2) 1 ++
    alone 2 (.updateUser 4 (roleEdit .admin) 2) 2 ++
    alone 2 (.updateUser 2 (roleEdit .staff) 3) 3 ++
    [.lockNext 1 true, .lockTarget 1, .save 1, .lockNext 3 true, .lockTarget 3, .save 3,
      .commit 1, .commit 3]

theorem last_admins_removed :
    ¬ ∀ (fw : Framework) (users : Table Users) (actions : List AdminAction),
      (∃ user ∈ users.rows, user.isActiveAdmin = true) →
        ((AdminDesk.opened users).run fw actions).HasAdmin := by
  intro h
  have hadmin := h .plain
    ((((Table.empty.create (account .admin)).create (account .staff)).create
      (account .staff)).create (account .staff)) crossingRemovals
    ⟨account .admin 1, by decide, rfl⟩
  have hnone : ∀ user ∈ ((AdminDesk.opened
      ((((Table.empty.create (account .admin)).create (account .staff)).create
        (account .staff)).create (account .staff))).run .plain crossingRemovals).users.table.rows,
      user.isActiveAdmin = false := by decide
  rcases hadmin with ⟨user, hmem, hactive⟩
  rw [hnone user hmem] at hactive
  cases hactive

end Accounts
end RosarioDairy
