import RosarioDairy.Accounts.Lockout
import RosarioDairy.Accounts.Revocation

/-!
# LockoutSteps — what a step of a login does

The claims about a run of logins, and what one step does to the rows, to the log and to the logins
under way.
-/

namespace RosarioDairy
namespace Accounts

open Foundations

/-! ## Claims about a log -/

/-- Somebody gets into the account, or clears its lockout, before the deadline. -/
def LockoutEvent.Breaks (user : Nat) (deadline : Int) : LockoutEvent → Prop
  | .issued _ user' now => user' = user ∧ now < deadline
  | .cleared _ user' now => user' = user ∧ now < deadline
  | _ => False

/-- Until the account has a new password, no login breaks a lockout. -/
def LockoutsHold (log : List LockoutEvent) : Prop :=
  ∀ pre post user deadline, log = pre ++ .lockedOut user deadline :: post →
    ∀ e ∈ post.takeWhile (fun e => decide (e ≠ .reset user)), ¬ e.Breaks user deadline

/-- The failures counted since the last lockout, reset or successful login. -/
def LockoutEvent.tally (user : Nat) (failures : Nat) : LockoutEvent → Nat
  | .counted _ user' => if user' = user then failures + 1 else failures
  | .lockedOut user' _ => if user' = user then 0 else failures
  | .reset user' => if user' = user then 0 else failures
  | .cleared _ user' _ => if user' = user then 0 else failures
  | _ => failures

/-- The failures of an account that count towards its next lockout. -/
def Users.pendingFailures (user : Users) : Nat :=
  if user.lockedUntil.isSome then 0 else user.failedLoginAttempts

/-- The failure of a login is recorded: counted, or ignored. -/
def LockoutEvent.records (p user : Nat) : LockoutEvent → Bool
  | .counted p' user' => p' = p && user' = user
  | .ignored p' user' _ _ => p' = p && user' = user
  | _ => false

namespace Lockouts

/-- The login waits to record its failure for the account. -/
def Waits (S : Lockouts) (p user : Nat) : Prop := S.attempts p = some (.failed user)

instance (S : Lockouts) (p user : Nat) : Decidable (S.Waits p user) := by
  unfold Waits
  infer_instance

/-- The failures of a run: each is recorded once or still waits, none is ignored without a lockout,
and those that were counted stand in the row until a reset or a successful login, or have led to a
lockout. -/
structure FailuresCounted (before : Table Users) (S : Lockouts) : Prop where
  recorded : ∀ p user, S.log.countP (fun e => decide (e = .rejected p user)) =
    S.log.countP (LockoutEvent.records p user) + if S.Waits p user then 1 else 0
  ignored : ∀ p user deadline now, .ignored p user deadline now ∈ S.log → now < deadline
  tallied : ∀ user, (S.table.find user).map Users.pendingFailures =
    (before.find user).map fun row => S.log.foldl (LockoutEvent.tally user) row.pendingFailures
  few : (∀ row ∈ before.rows, row.pendingFailures < loginMaxFailedAttempts) →
    ∀ row ∈ S.table.rows, row.pendingFailures < loginMaxFailedAttempts

end Lockouts

/-- The account signs in with these credentials. -/
def Users.signsIn (fw : Framework) (username password : String) (user : Users) : Bool :=
  user.username = username && user.isActive && fw.checkPassword password user.password

/-- A login that has found its account open and that goes on to succeed: it has the right password, or
has been verified already. -/
def Lockouts.InFlight (env : AccountSettings) (S : Lockouts) (p user : Nat) : Prop :=
  match S.signIns.logins p with
  | none => False
  | some (.named username) => ∃ password found row, S.attempts p = some (.checked password found) ∧
      S.table.find user = some row ∧ row.signsIn env.framework username password = true
  | some (.verified copy) => copy.pk = user
  | some (.issued copy) => copy.pk = user
  | some (.noted copy) => copy.pk = user

/-- The failure that locks an account out is not recorded while such a login is under way. -/
def Lockouts.Spares (env : AccountSettings) (S : Lockouts) : LockoutAction → Prop
  | .recordFailure p => ∀ user row, S.Waits p user → S.recording user = some p →
      S.signIns.users.held user = some (.failedLogin, row) → row.isOpen S.signIns.now = true →
        loginMaxFailedAttempts ≤ row.pendingFailures + 1 → ∀ q, ¬ S.InFlight env q user
  | _ => True

/-- Every step of a run does so. -/
def Lockouts.AllSpare (env : AccountSettings) : Lockouts → List LockoutAction → Prop
  | _, [] => True
  | S, action :: actions => S.Spares env action ∧ AllSpare env (S.step env action) actions

/-! ## What a step does -/

namespace Lockouts

/-- The columns that logins and lockouts read. -/
def loginColumns (user : Users) : String × String × Bool × Nat × Option Int :=
  (user.username, user.password, user.isActive, user.failedLoginAttempts, user.lockedUntil)

/-- The row of one user is changed by `f`, the others stay. -/
def Changes (S T : Lockouts) (user : Nat) (f : Users → Users) : Prop :=
  ∀ k, T.table.find k = if k = user then (S.table.find k).map f else S.table.find k

/-- What a step does to the rows and to the log. -/
inductive Effect (S T : Lockouts) (action : LockoutAction) : Prop
  | quiet (events : List LockoutEvent)
      (hrows : ∀ k, (T.table.find k).map loginColumns = (S.table.find k).map loginColumns)
      (hevents : ∀ e ∈ events, ∃ p user, e = .rejected p user)
      (hlog : T.log = S.log ++ events)
  | issued (p : Nat) (user : Users)
      (hlogin : S.signIns.logins p = some (.verified user))
      (hrows : T.table = S.table)
      (hlog : T.log = S.log ++ [.issued p user.pk S.signIns.now])
  | recorded (p : Nat) (copy : Users)
      (haction : action = .recordFailure p)
      (hwaits : S.Waits p copy.pk)
      (hrecording : S.recording copy.pk = some p)
      (hheld : S.signIns.users.held copy.pk = some (.failedLogin, copy))
      (hrows : Changes S T copy.pk
        (recordFailedLogin S.signIns.now copy S.signIns.challenges).save.onto)
      (hlog : T.log = S.log ++ failureEvents S.signIns.now p copy S.signIns.challenges)
  | cleared (p : Nat) (user : Users)
      (hlogin : S.signIns.logins p = some (.noted user))
      (hrows : Changes S T user.pk (clearedFailures user).onto)
      (hlog : T.log = S.log ++ [.cleared p user.pk S.signIns.now])
  | reset (user : Nat) (f : Users → Users)
      (hnew : ∀ row, (f row).failedLoginAttempts = 0 ∧ (f row).lockedUntil = none)
      (hrows : Changes S T user f)
      (hlog : T.log = S.log ++ [.reset user])

section Steps

variable {env : AccountSettings} {S T : Lockouts} {action : LockoutAction}

theorem Effect.still (hrows : T.table = S.table) (hlog : T.log = S.log) : Effect S T action :=
  .quiet [] (fun k => by rw [hrows]) (fun e he => by cases he) (by rw [hlog, List.append_nil])

/-- An operation under the lock of a row saves what it made of the row. -/
theorem finishUser_changes {S : SignIns} {k : Nat} {op : UserOp} {copy : Users}
    {change : UserChange} (hheld : S.users.held k = some (op, copy))
    (hrun : op.run env S.now S.users.table.rows S.sessions.table copy S.challenges = .ok change)
    (k' : Nat) : (S.finishUser env k).users.table.find k' =
      if k' = k then (S.users.table.find k').map change.save.onto else S.users.table.find k' := by
  have hfind := S.users.current k op copy hheld
  unfold SignIns.finishUser
  simp only [hheld, hrun]
  rw [LockedTable.find_save hheld]
  by_cases hk : k' = k
  · subst hk
    rw [if_pos rfl, if_pos rfl, hfind]
    rfl
  · rw [if_neg hk, if_neg hk]

theorem finishUser_failed {S : SignIns} {k : Nat} {op : UserOp} {copy : Users} {e : Error}
    (hheld : S.users.held k = some (op, copy))
    (hrun : op.run env S.now S.users.table.rows S.sessions.table copy S.challenges = .error e) :
    (S.finishUser env k).users.table = S.users.table := by
  unfold SignIns.finishUser
  simp only [hheld, hrun]
  rfl

theorem forgotPassword_onto {fw : Framework} {newPassword : Input String} {salt : String}
    {user : Users} {challenges : Challenges} {change : UserChange}
    (h : forgotPassword fw newPassword salt user challenges = .ok change) :
    change.granted = true ∧ ∀ row, (change.save.onto row).failedLoginAttempts = 0 ∧
      (change.save.onto row).lockedUntil = none := by
  unfold forgotPassword at h
  obtain ⟨new, _, h⟩ := demand_bind_eq_ok.1 h
  obtain ⟨_, _, h⟩ := bind_eq_ok.1 h
  cases pure_eq_ok.1 h
  exact ⟨rfl, fun _ => ⟨rfl, rfl⟩⟩

/-- A reset that is not granted saves nothing. -/
theorem resetPassword_onto {fw : Framework} {settings : ResetSettings} {now : Int}
    {username email otp newPassword salt : String} {user : Users} {challenges : Challenges}
    {change : UserChange}
    (h : resetPasswordWithOtp fw settings now username email otp newPassword salt user challenges =
      .ok change) :
    (change.granted = false ∧ ∀ row, change.save.onto row = row) ∨
      (change.granted = true ∧ ∀ row, (change.save.onto row).failedLoginAttempts = 0 ∧
        (change.save.onto row).lockedUntil = none) := by
  unfold resetPasswordWithOtp at h
  split at h
  · cases h
    exact Or.inl ⟨rfl, fun _ => rfl⟩
  · split at h
    · cases h
      exact Or.inl ⟨rfl, fun _ => rfl⟩
    · split at h
      · cases h
        exact Or.inl ⟨rfl, fun _ => rfl⟩
      · split at h
        · cases h
          exact Or.inl ⟨rfl, fun _ => rfl⟩
        · exact Or.inr (forgotPassword_onto h)

theorem requestPasswordReset_onto (fw : Framework) (settings : ResetSettings) (now : Int)
    (username email otp : String) (user : Users) (challenges : Challenges) (row : Users) :
    (requestPasswordReset fw settings now username email otp user challenges).save.onto row =
      row := by
  simp only [requestPasswordReset]
  split
  · rfl
  · rfl

/-- A request for a new password saves one, or nothing. -/
theorem finishRecovery_effect (user : Nat) : Effect S (S.finishRecovery env user) action := by
  unfold finishRecovery
  split
  · exact .still rfl rfl
  · rename_i op copy hheld
    have hpk : copy.pk = user := (Table.find_eq_some.1 (S.signIns.users.current _ _ _ hheld)).2
    by_cases hrecovers : op.recovers = true
    · rw [if_pos hrecovers]
      cases hrun : op.run env S.signIns.now S.table.rows S.signIns.sessions.table copy
          S.signIns.challenges with
      | error e =>
          refine .still (finishUser_failed hheld hrun) ?_
          have hnone : S.recoveryEvents env copy op = [] := by
            unfold recoveryEvents
            split
            · rfl
            · rw [hrun]
          simp only [hnone, List.append_nil]
      | ok change =>
          have hchanges := finishUser_changes hheld hrun
          -- a change of nothing, and a new password
          have hkeep (hsave : ∀ row, change.save.onto row = row) (k : Nat) :
              ((S.signIns.finishUser env user).users.table.find k).map loginColumns =
                (S.table.find k).map loginColumns := by
            rw [hchanges]
            split
            · rw [show change.save.onto = id from funext hsave, Option.map_id]
              rfl
            · rfl
          have hreset (hgranted : change.granted = true)
              (hevents : S.recoveryEvents env copy op = [.reset user])
              (hnew : ∀ row, (change.save.onto row).failedLoginAttempts = 0 ∧
                (change.save.onto row).lockedUntil = none) :
              Effect S { S with
                signIns := S.signIns.finishUser env user
                log := S.log ++ S.recoveryEvents env copy op } action :=
            .reset user change.save.onto hnew hchanges (by rw [hevents])
          cases op with
          | requestPasswordReset username email otp =>
              cases hrun
              refine .quiet [] (hkeep fun row => requestPasswordReset_onto _ _ _ _ _ _ _ _ row)
                (fun e he => by cases he) rfl
          | forgotPassword newPassword salt =>
              obtain ⟨hgranted, hnew⟩ := forgotPassword_onto hrun
              refine hreset hgranted ?_ hnew
              simp only [recoveryEvents, hrun, hgranted, if_true, hpk]
          | resetPassword username email otp newPassword salt =>
              rcases resetPassword_onto hrun with ⟨hgranted, hsave⟩ | ⟨hgranted, hnew⟩
              · refine .quiet [] (hkeep hsave) (fun e he => by cases he) ?_
                simp [recoveryEvents, hrun, hgranted]
              · refine hreset hgranted ?_ hnew
                simp only [recoveryEvents, hrun, hgranted, if_true, hpk]
          | changePassword => cases hrecovers
          | logout => cases hrecovers
          | refresh => cases hrecovers
          | requestEmailChange => cases hrecovers
          | confirmEmailChange => cases hrecovers
          | updateUser => cases hrecovers
          | deactivateUser => cases hrecovers
          | updateOwnProfile => cases hrecovers
          | failedLogin => cases hrecovers
    · rw [if_neg hrecovers]
      exact .still rfl rfl

theorem saveLogin_changes {S : SignIns} {p : Nat} {user : Users} {save : UserSave}
    {next : Option LoginPhase} (hheld : S.users.held user.pk = none) (k : Nat) :
    (S.saveLogin p user save next).users.table.find k =
      if k = user.pk then (S.users.table.find k).map save.onto else S.users.table.find k := by
  unfold SignIns.saveLogin
  simp only [hheld]
  exact LockedTable.find_touch_of_free hheld _ _ k

theorem noteLogin_rows (S : SignIns) (p k : Nat) :
    ((S.noteLogin p).users.table.find k).map loginColumns =
      (S.users.table.find k).map loginColumns := by
  unfold SignIns.noteLogin
  split
  · rename_i user _
    cases hheld : S.users.held user.pk with
    | some holder =>
        unfold SignIns.saveLogin
        simp only [hheld]
    | none =>
        rw [saveLogin_changes hheld]
        split
        · rw [Option.map_map]
          rfl
        · rfl
  · rfl

variable (env S) in
theorem step_effect (action : LockoutAction) : Effect S (S.step env action) action := by
  cases action with
  | tick seconds => exact .still rfl rfl
  | startLogin p username password =>
      simp only [step, startLogin]
      split
      · exact .still rfl rfl
      · -- the login starts or is refused; no row and no event
        refine .still ?_ rfl
        unfold SignIns.startLogin table
        split
        · rfl
        · rfl
  | verifyLogin p =>
      simp only [step, verifyLogin]
      split
      · -- the outcome is remembered in the attempt; a wrong password is logged as rejected
        refine .quiet _ (fun k => ?_) ?_ rfl
        · unfold SignIns.verifyLogin table
          split
          · rfl
          · rfl
        · intro e he
          rw [Option.mem_toList, Option.map_eq_some_iff] at he
          obtain ⟨user, _, rfl⟩ := he
          exact ⟨p, user, rfl⟩
      · exact .still rfl rfl
  | lockFailure p =>
      simp only [step, lockFailure]
      split
      · split
        · exact .still (LockedTable.table_lock _ _ _) rfl
        · exact .still rfl rfl
      · exact .still rfl rfl
  | recordFailure p =>
      simp only [step, recordFailure]
      split
      · rename_i user hattempt
        split
        · rename_i copy hheld
          have hfind := S.signIns.users.current _ _ _ hheld
          obtain rfl : copy.pk = user := (Table.find_eq_some.1 hfind).2
          split
          · rename_i hrecording
            -- the step that records: the copy is current because its row is locked
            exact .recorded p copy rfl hattempt hrecording hheld (finishUser_changes hheld rfl) rfl
          · exact .still rfl rfl
        · exact .still rfl rfl
      · exact .still rfl rfl
  | issueToken p =>
      simp only [step, issueToken]
      split
      · rename_i user hlogin
        refine .issued p user hlogin ?_ rfl
        unfold SignIns.issueToken table
        simp only [hlogin]
        rfl
      · exact .still rfl rfl
  | noteLogin p =>
      exact .quiet [] (noteLogin_rows S.signIns p) (fun e he => by cases he) (List.append_nil _).symm
  | clearFailures p =>
      simp only [step, clearFailures]
      split
      · rename_i user hlogin
        split
        · rename_i hheld
          refine .cleared p user hlogin (fun k => ?_) rfl
          simp only [table, SignIns.clearFailures, hlogin]
          exact saveLogin_changes hheld k
        · exact .still rfl rfl
      · exact .still rfl rfl
  | lockRecovery user recovery => exact .still (LockedTable.table_lock _ _ _) rfl
  | finishRecovery user => exact finishRecovery_effect user

/-- Every step is one of the accounts at work, or none. -/
theorem step_signIns (action : LockoutAction) : (S.step env action).signIns = S.signIns ∨
    ∃ a, (S.step env action).signIns = S.signIns.step env a := by
  cases action with
  | tick seconds => exact Or.inr ⟨.tick seconds, rfl⟩
  | startLogin p username password =>
      simp only [step, startLogin]
      split
      · exact Or.inl rfl
      · exact Or.inr ⟨.startLogin p username, rfl⟩
  | verifyLogin p =>
      simp only [step, verifyLogin]
      split
      · rename_i password user _
        exact Or.inr ⟨.verifyLogin p password, rfl⟩
      · exact Or.inl rfl
  | lockFailure p =>
      -- the request for the row lock is the step of the sign-in model
      simp only [step, lockFailure]
      split
      · rename_i user _
        split
        · exact Or.inr ⟨.lockUser user .failedLogin, rfl⟩
        · exact Or.inl rfl
      · exact Or.inl rfl
  | recordFailure p =>
      simp only [step, recordFailure]
      split
      · rename_i user _
        split
        · split
          · exact Or.inr ⟨.finishUser user, rfl⟩
          · exact Or.inl rfl
        · exact Or.inl rfl
      · exact Or.inl rfl
  | issueToken p =>
      simp only [step, issueToken]
      split
      · exact Or.inr ⟨.issueToken p, rfl⟩
      · exact Or.inl rfl
  | noteLogin p => exact Or.inr ⟨.noteLogin p, rfl⟩
  | clearFailures p =>
      simp only [step, clearFailures]
      split
      · split
        · exact Or.inr ⟨.clearFailures p, rfl⟩
        · exact Or.inl rfl
      · exact Or.inl rfl
  | lockRecovery user recovery => exact Or.inr ⟨.lockUser user recovery.op, rfl⟩
  | finishRecovery user =>
      simp only [step, finishRecovery]
      split
      · exact Or.inl rfl
      · split
        · exact Or.inr ⟨.finishUser user, rfl⟩
        · exact Or.inl rfl

theorem step_now (env : AccountSettings) (S : Lockouts) (action : LockoutAction) :
    S.signIns.now ≤ (S.step env action).signIns.now := by
  rcases step_signIns action with hsame | ⟨a, hstep⟩
  · rw [hsame]
  · rw [hstep]
    exact (step_allowed a).now

/-! ## Logins under way -/

/-- The account is there and not locked out. -/
def OpenRow (S : Lockouts) (user : Nat) : Prop :=
  ∃ row, S.table.find user = some row ∧ row.isOpen S.signIns.now = true

theorem isOpen_mono {user : Users} {now later : Int} (h : user.isOpen now = true)
    (hle : now ≤ later) : user.isOpen later = true := by
  unfold Users.isOpen at h ⊢
  cases hlocked : user.lockedUntil with
  | none => rfl
  | some deadline =>
      rw [hlocked] at h
      have hpast : deadline ≤ now := of_decide_eq_true h
      exact decide_eq_true (Int.le_trans hpast hle)

theorem verifyPassword_ok {fw : Framework} {users : Table Users} {username password : String}
    {user : Users} (h : verifyPassword fw users username password = some user) :
    users.find user.pk = some user ∧ user.signsIn fw username password = true :=
  ⟨Table.find_eq_some.2 ⟨List.mem_of_find?_eq_some h, rfl⟩, List.find?_some h⟩

/-- A login keeps under way where the accounts it could get into keep their credentials or are
open. -/
theorem InFlight.keep {p user : Nat} (h : T.InFlight env p user)
    (hlogin : T.signIns.logins p = S.signIns.logins p) (hattempt : T.attempts p = S.attempts p)
    (hrow : ∀ row, T.table.find user = some row → T.OpenRow user ∨
      ∃ old, S.table.find user = some old ∧ old.username = row.username ∧
        old.password = row.password ∧ old.isActive = row.isActive) :
    S.InFlight env p user ∨ T.OpenRow user := by
  unfold InFlight at h ⊢
  rw [hlogin] at h
  cases hphase : S.signIns.logins p with
  | none =>
      rw [hphase] at h
      exact h.elim
  | some phase =>
      rw [hphase] at h
      cases phase with
      | named username =>
          obtain ⟨password, found, row, hchecked, hfind, hsigns⟩ := h
          rcases hrow row hfind with hopen | ⟨old, hold, hname, hpassword, hactive⟩
          · exact Or.inr hopen
          · refine Or.inl ⟨password, found, old, hattempt ▸ hchecked, hold, ?_⟩
            unfold Users.signsIn at hsigns ⊢
            rw [hname, hpassword, hactive]
            exact hsigns
      | verified copy => exact Or.inl h
      | issued copy => exact Or.inl h
      | noted copy => exact Or.inl h

/-- A step keeps the credentials of an account, or leaves it open. -/
theorem Effect.credentials (h : Effect S T action) {user : Nat} {row : Users}
    (hrow : T.table.find user = some row) : T.OpenRow user ∨
      ∃ old, S.table.find user = some old ∧ old.username = row.username ∧
        old.password = row.password ∧ old.isActive = row.isActive := by
  -- a changed row was this row before, with `f` applied or not
  have hchanged {k : Nat} {f : Users → Users} (hrows : Changes S T k f) :
      ∃ old, S.table.find user = some old ∧ (row = old ∨ row = f old) := by
    have hEq := hrows user
    rw [hrow] at hEq
    split at hEq
    · obtain ⟨old, hold, hf⟩ := Option.map_eq_some_iff.1 hEq.symm
      exact ⟨old, hold, Or.inr hf.symm⟩
    · exact ⟨row, hEq.symm, Or.inl rfl⟩
  cases h with
  | quiet events hrows hevents hlog =>
      have hEq := hrows user
      rw [hrow] at hEq
      obtain ⟨old, hold, hcolumns⟩ := Option.map_eq_some_iff.1 hEq.symm
      simp only [loginColumns, Prod.mk.injEq] at hcolumns
      exact Or.inr ⟨old, hold, hcolumns.1, hcolumns.2.1, hcolumns.2.2.1⟩
  | issued p user' hlogin hrows hlog =>
      rw [hrows] at hrow
      exact Or.inr ⟨row, hrow, rfl, rfl, rfl⟩
  | recorded p copy haction hwaits hrecording hheld hrows hlog =>
      obtain ⟨old, hold, rfl | rfl⟩ := hchanged hrows
      · exact Or.inr ⟨row, hold, rfl, rfl, rfl⟩
      · refine Or.inr ⟨old, hold, ?_⟩
        -- recording a failure saves the two counters only
        unfold recordFailedLogin
        split
        · exact ⟨rfl, rfl, rfl⟩
        · exact ⟨rfl, rfl, rfl⟩
  | cleared p user' hlogin hrows hlog =>
      obtain ⟨old, hold, rfl | rfl⟩ := hchanged hrows
      · exact Or.inr ⟨row, hold, rfl, rfl, rfl⟩
      · exact Or.inr ⟨old, hold, rfl, rfl, rfl⟩
  | reset user' f hnew hrows hlog =>
      obtain ⟨old, hold, rfl | rfl⟩ := hchanged hrows
      · exact Or.inr ⟨row, hold, rfl, rfl, rfl⟩
      · -- a password reset opens the row, which is the first alternative
        refine Or.inl ⟨_, hrow, ?_⟩
        unfold Users.isOpen
        rw [(hnew old).2]
        rfl

theorem finishUser_logins (env : AccountSettings) (S : SignIns) (k : Nat) :
    (S.finishUser env k).logins = S.logins := by
  unfold SignIns.finishUser
  split
  · rfl
  · split
    · rfl
    · rfl

/-- Where a login stands after a save of its own. -/
theorem saveLogin_logins (S : SignIns) (p : Nat) (user : Users) (save : UserSave)
    (next : Option LoginPhase) (q : Nat) :
    (S.saveLogin p user save next).logins q = S.logins q ∨
      (q = p ∧ (S.saveLogin p user save next).logins q = next) := by
  unfold SignIns.saveLogin
  split
  · exact Or.inl rfl
  · by_cases hq : q = p
    · subst hq
      exact Or.inr ⟨rfl, Function.update_self _ _ _⟩
    · exact Or.inl (Function.update_of_ne hq _ _)

/-- The login that a step is a step of. -/
def loginOf : LockoutAction → Option Nat
  | .startLogin p _ _ => some p
  | .verifyLogin p => some p
  | .recordFailure p => some p
  | .issueToken p => some p
  | .noteLogin p => some p
  | .clearFailures p => some p
  | _ => none

variable (env S) in
/-- A step leaves the other logins where they stand. -/
theorem step_others {action : LockoutAction} {q : Nat} (hother : loginOf action ≠ some q) :
    (S.step env action).signIns.logins q = S.signIns.logins q ∧
      (S.step env action).attempts q = S.attempts q := by
  -- a step of login `p` leaves the state of login `q` alone
  have hne {p : Nat} (h : some p ≠ some q) : q ≠ p := fun hEq => h (hEq ▸ rfl)
  cases action with
  | tick seconds => exact ⟨rfl, rfl⟩
  | lockRecovery user recovery => exact ⟨rfl, rfl⟩
  | lockFailure p =>
      simp only [step, lockFailure]
      split
      · split
        · exact ⟨rfl, rfl⟩
        · exact ⟨rfl, rfl⟩
      · exact ⟨rfl, rfl⟩
  | finishRecovery user =>
      simp only [step, finishRecovery]
      split
      · exact ⟨rfl, rfl⟩
      · split
        · exact ⟨by rw [finishUser_logins], rfl⟩
        · exact ⟨rfl, rfl⟩
  | startLogin p username password =>
      simp only [step, startLogin]
      split
      · exact ⟨rfl, rfl⟩
      · refine ⟨?_, Function.update_of_ne (hne hother) _ _⟩
        unfold SignIns.startLogin
        split
        · rfl
        · exact Function.update_of_ne (hne hother) _ _
  | verifyLogin p =>
      simp only [step, verifyLogin]
      split
      · refine ⟨?_, Function.update_of_ne (hne hother) _ _⟩
        unfold SignIns.verifyLogin
        split
        · exact Function.update_of_ne (hne hother) _ _
        · rfl
      · exact ⟨rfl, rfl⟩
  | recordFailure p =>
      simp only [step, recordFailure]
      split
      · split
        · split
          · exact ⟨by rw [finishUser_logins], Function.update_of_ne (hne hother) _ _⟩
          · exact ⟨rfl, rfl⟩
        · exact ⟨rfl, rfl⟩
      · exact ⟨rfl, rfl⟩
  | issueToken p =>
      simp only [step, issueToken]
      split
      · refine ⟨?_, rfl⟩
        unfold SignIns.issueToken
        split
        · exact Function.update_of_ne (hne hother) _ _
        · rfl
      · exact ⟨rfl, rfl⟩
  | noteLogin p =>
      refine ⟨?_, rfl⟩
      simp only [step, SignIns.noteLogin]
      split
      · exact (saveLogin_logins _ _ _ _ _ q).resolve_right fun h => hne hother h.1
      · rfl
  | clearFailures p =>
      simp only [step, clearFailures]
      split
      · split
        · refine ⟨?_, rfl⟩
          unfold SignIns.clearFailures
          split
          · exact (saveLogin_logins _ _ _ _ _ q).resolve_right fun h => hne hother h.1
          · rfl
        · exact ⟨rfl, rfl⟩
      · exact ⟨rfl, rfl⟩

/-- What a step does to its own login: it goes on with the account it had, comes under way with a check
that finds the account open, or ends. -/
inductive Moves (env : AccountSettings) (S T : Lockouts) (p : Nat) : Prop
  | same (hlogin : T.signIns.logins p = S.signIns.logins p)
      (hattempt : T.attempts p = S.attempts p)
  | named (username : String) (hlogin : T.signIns.logins p = some (.named username))
      (hopen : ∀ row ∈ T.table.rows, row.username = username → row.isOpen T.signIns.now = true)
  | onward (user : Nat) (hflight : S.InFlight env p user)
      (honly : ∀ user', T.InFlight env p user' → user' = user)
  | ended (hlogin : ∀ user, ¬ T.InFlight env p user)

theorem not_inFlight_of_none {p user : Nat} (h : S.signIns.logins p = none) :
    ¬ S.InFlight env p user := by
  unfold InFlight
  rw [h]
  exact id

variable (env) in
theorem inFlight_iff {p user : Nat} {phase : LoginPhase} {copy : Users}
    (h : S.signIns.logins p = some phase)
    (hphase : phase = .verified copy ∨ phase = .issued copy ∨ phase = .noted copy) :
    S.InFlight env p user ↔ copy.pk = user := by
  unfold InFlight
  rw [h]
  rcases hphase with rfl | rfl | rfl
  · rfl
  · rfl
  · rfl

/-- A login goes on with the object it has. -/
theorem Moves.on {p : Nat} {phase phase' : LoginPhase} {copy : Users}
    (hlogin : S.signIns.logins p = some phase) (hlogin' : T.signIns.logins p = some phase')
    (hphase : phase = .verified copy ∨ phase = .issued copy ∨ phase = .noted copy)
    (hphase' : phase' = .verified copy ∨ phase' = .issued copy ∨ phase' = .noted copy) :
    Moves env S T p :=
  .onward copy.pk ((inFlight_iff env hlogin hphase).2 rfl)
    fun _ hflight => ((inFlight_iff env hlogin' hphase').1 hflight).symm

/-- A login without a password to verify is under way only after its verification. -/
theorem Moves.of_unchecked {p : Nat} (hlogin : T.signIns.logins p = S.signIns.logins p)
    (hattempt : ∀ password found, T.attempts p ≠ some (.checked password found)) :
    Moves env S T p := by
  cases hphase : S.signIns.logins p with
  | none => exact .ended fun _ => not_inFlight_of_none (hlogin.trans hphase)
  | some phase =>
      rw [hphase] at hlogin
      cases phase with
      | named username =>
          refine .ended ?_
          intro user hflight
          unfold InFlight at hflight
          rw [hlogin] at hflight
          obtain ⟨password, found, _, hchecked, _⟩ := hflight
          exact hattempt password found hchecked
      | verified copy => exact .on hphase hlogin (Or.inl rfl) (Or.inl rfl)
      | issued copy => exact .on hphase hlogin (Or.inr (Or.inl rfl)) (Or.inr (Or.inl rfl))
      | noted copy => exact .on hphase hlogin (Or.inr (Or.inr rfl)) (Or.inr (Or.inr rfl))

theorem startLogin_moves (p : Nat) (username password : String) :
    Moves env S (S.startLogin p username password) p := by
  unfold startLogin
  split
  · exact .same rfl rfl
  · rename_i hfree
    have hnone : S.signIns.logins p = none := by
      simp only [Bool.or_eq_true, not_or, Bool.not_eq_true, Option.isSome_eq_false_iff,
        Option.isNone_iff_eq_none] at hfree
      exact hfree.1
    unfold SignIns.startLogin
    split
    · exact .ended fun _ => not_inFlight_of_none hnone
    · rename_i hcheck
      refine .named username (Function.update_self _ _ _) ?_
      intro row hrow hname
      by_contra hlocked
      have hshut : row.isOpen S.signIns.now = false := Bool.eq_false_of_not_eq_true hlocked
      refine hcheck (List.any_eq_true.2 ⟨row, hrow, ?_⟩)
      simp [hname, hshut]

theorem verifyLogin_moves (p : Nat) : Moves env S (S.verifyLogin env p) p := by
  unfold verifyLogin
  split
  · rename_i password found hattempt
    -- the password has been used
    have hused (failed : Option Nat) (password' : String) (found' : Option Nat) :
        failed.map LoginAttempt.failed ≠ some (.checked password' found') := by
      cases failed with
      | none => simp
      | some user => simp
    unfold SignIns.verifyLogin
    split
    · rename_i username hlogin
      cases hverify : verifyPassword env.framework S.signIns.users.table username password with
      | none =>
          refine .ended fun _ => not_inFlight_of_none ?_
          exact Function.update_self _ _ _
      | some user =>
          obtain ⟨hfind, hsigns⟩ := verifyPassword_ok hverify
          refine .onward user.pk ?_ ?_
          · unfold InFlight
            rw [hlogin]
            exact ⟨password, found, user, hattempt, hfind, hsigns⟩
          · intro user' hflight
            exact ((inFlight_iff env (Function.update_self _ _ _) (Or.inl rfl)).1 hflight).symm
    · refine .of_unchecked rfl ?_
      intro password' found'
      simp only [Function.update_self]
      exact hused _ password' found'
  · exact .same rfl rfl

theorem recordFailure_moves (p : Nat) : Moves env S (S.recordFailure env p) p := by
  unfold recordFailure
  split
  · split
    · split
      · refine .of_unchecked (by rw [finishUser_logins]) ?_
        intro password found
        simp [Function.update_self]
      · exact .same rfl rfl
    · exact .same rfl rfl
  · exact .same rfl rfl

theorem issueToken_moves (p : Nat) : Moves env S (S.issueToken env p) p := by
  unfold issueToken
  split
  · rename_i user hlogin
    refine .on hlogin ?_ (Or.inl rfl) (Or.inr (Or.inl rfl))
    simp only [SignIns.issueToken, hlogin]
    exact Function.update_self _ _ _
  · exact .same rfl rfl

theorem noteLogin_moves (p : Nat) : Moves env S (S.step env (.noteLogin p)) p := by
  simp only [step, SignIns.noteLogin]
  split
  · rename_i user hlogin
    rcases saveLogin_logins S.signIns p user (notedLogin S.signIns.now user) (some (.noted user)) p
      with hsame | ⟨_, hnext⟩
    · exact .same hsame rfl
    · exact .on hlogin hnext (Or.inr (Or.inl rfl)) (Or.inr (Or.inr rfl))
  · exact .same rfl rfl

theorem clearFailures_moves (p : Nat) : Moves env S (S.clearFailures p) p := by
  unfold clearFailures
  split
  · rename_i user hlogin
    split
    · simp only [SignIns.clearFailures, hlogin]
      rcases saveLogin_logins S.signIns p user (clearedFailures user) none p with hsame | ⟨_, hnext⟩
      · exact .same hsame rfl
      · exact .ended fun _ => not_inFlight_of_none hnext
    · exact .same rfl rfl
  · exact .same rfl rfl

theorem step_moves {action : LockoutAction} {p : Nat} (hlogin : loginOf action = some p) :
    Moves env S (S.step env action) p := by
  cases action with
  | startLogin q username password =>
      cases hlogin
      exact startLogin_moves p username password
  | verifyLogin q =>
      cases hlogin
      exact verifyLogin_moves p
  | recordFailure q =>
      cases hlogin
      exact recordFailure_moves p
  | issueToken q =>
      cases hlogin
      exact issueToken_moves p
  | noteLogin q =>
      cases hlogin
      exact noteLogin_moves p
  | clearFailures q =>
      cases hlogin
      exact clearFailures_moves p
  | tick seconds => cases hlogin
  | lockFailure q => cases hlogin
  | lockRecovery user recovery => cases hlogin
  | finishRecovery user => cases hlogin

/-- A login comes under way with a check that finds its account open. -/
theorem step_inFlight (action : LockoutAction) {p user : Nat}
    (h : (S.step env action).InFlight env p user) :
    S.InFlight env p user ∨ (S.step env action).OpenRow user := by
  have hrow : ∀ row, (S.step env action).table.find user = some row →
      (S.step env action).OpenRow user ∨ ∃ old, S.table.find user = some old ∧
        old.username = row.username ∧ old.password = row.password ∧
          old.isActive = row.isActive := fun _ hfind =>
    (step_effect env S action).credentials hfind
  by_cases hlogin : loginOf action = some p
  · cases step_moves hlogin with
    | same hlogin hattempt => exact InFlight.keep h hlogin hattempt hrow
    | named username hlogin hopen =>
        unfold InFlight at h
        rw [hlogin] at h
        obtain ⟨password, found, row, _, hfind, hsigns⟩ := h
        obtain ⟨hmem, _⟩ := Table.find_eq_some.1 hfind
        refine Or.inr ⟨row, hfind, hopen row hmem ?_⟩
        unfold Users.signsIn at hsigns
        simp only [Bool.and_eq_true, decide_eq_true_eq] at hsigns
        exact hsigns.1.1
    | onward user' hflight honly =>
        rw [honly user h]
        exact Or.inl hflight
    | ended hlogin => exact absurd h (hlogin user)
  · obtain ⟨hsame, hattempt⟩ := step_others env S hlogin
    exact InFlight.keep h hsame hattempt hrow

end Steps

end Lockouts

end Accounts
end RosarioDairy
