import Mathlib.Data.List.Induction
import RosarioDairy.Accounts.LockoutRuns
import RosarioDairy.Accounts.ResetCodes

/-!
# ResetCodeRuns — what a code is good for

The last code issued to an account can be redeemed once, before it expires and before the account's
password, names or active state change, and only so many wrong codes are compared with it.  A watch of
the log says what the last code is still good for; the challenge in the database, when there is one,
agrees with the watch.
-/

namespace RosarioDairy
namespace Accounts

open Foundations

/-! ## Claims about a log -/

/-- The event issues the account a code. -/
def CodeEvent.Issues (user : Nat) : CodeEvent → Prop
  | .issued user' _ => user' = user
  | _ => False

/-- After the event, the codes issued to the account before are worth nothing. -/
def CodeEvent.Closes (user : Nat) : CodeEvent → Prop
  | .issued user' _ => user' = user
  | .redeemed user' _ _ _ _ => user' = user
  | .ended user' => user' = user
  | .wrong _ => False

/-- A reset takes the last code issued to the account, before its expiry, and nothing has closed it
since; with no code are more than `maxAttempts` wrong ones compared. -/
structure CodesSound (maxAttempts : Nat) (log : List CodeEvent) : Prop where
  redeemed : ∀ pre post user username email otp now,
    log = pre ++ .redeemed user username email otp now :: post →
      ∃ before since code, pre = before ++ .issued user code :: since ∧
        code.username = username ∧ code.email = email ∧ code.otp = otp ∧ now < code.expiresAt ∧
          ∀ e ∈ since, ¬ e.Closes user
  guesses : ∀ before since rest user code, log = before ++ .issued user code :: (since ++ rest) →
    (∀ e ∈ since, ¬ e.Issues user) → since.count (.wrong user) ≤ maxAttempts

/-! ## The watch -/

/-- What the last code issued to an account is still good for. -/
structure CodeWatch where
  code : IssuedCode
  wrong : Nat
  usable : Bool
  deriving DecidableEq, Repr

/-- How an event changes the watch of an account. -/
def CodeEvent.watch (user : Nat) (w : Option CodeWatch) : CodeEvent → Option CodeWatch
  | .issued user' code =>
      if user' = user then
        some
          { code := code
            wrong := 0
            usable := true }
      else w
  | .wrong user' => if user' = user then w.map fun w => { w with wrong := w.wrong + 1 } else w
  | .redeemed user' _ _ _ _ => if user' = user then w.map fun w => { w with usable := false } else w
  | .ended user' => if user' = user then w.map fun w => { w with usable := false } else w

def watched (user : Nat) (log : List CodeEvent) : Option CodeWatch :=
  log.foldl (CodeEvent.watch user) none

/-- What the watch of an account lets happen. -/
def CodeEvent.Legal (maxAttempts user : Nat) (w : Option CodeWatch) : CodeEvent → Prop
  | .redeemed user' username email otp now => user' = user → ∃ watch, w = some watch ∧
      watch.usable = true ∧ watch.code.username = username ∧ watch.code.email = email ∧
        watch.code.otp = otp ∧ now < watch.code.expiresAt
  | .wrong user' => user' = user → ∃ watch, w = some watch ∧ watch.wrong < maxAttempts
  | _ => True

/-- Every event was legal when it happened. -/
def LegalLog (maxAttempts user : Nat) (log : List CodeEvent) : Prop :=
  ∀ pre e post, log = pre ++ e :: post → e.Legal maxAttempts user (watched user pre)

section Watch

variable {maxAttempts user : Nat} {log : List CodeEvent}

theorem watched_append (user : Nat) (log events : List CodeEvent) :
    watched user (log ++ events) = events.foldl (CodeEvent.watch user) (watched user log) :=
  List.foldl_append

theorem watched_concat (user : Nat) (log : List CodeEvent) (e : CodeEvent) :
    watched user (log ++ [e]) = e.watch user (watched user log) :=
  watched_append user log [e]

theorem LegalLog.nil : LegalLog maxAttempts user [] := by
  intro pre e post h
  simp at h

theorem LegalLog.concat (h : LegalLog maxAttempts user log) {e : CodeEvent}
    (he : e.Legal maxAttempts user (watched user log)) : LegalLog maxAttempts user (log ++ [e]) := by
  intro pre e' post hsplit
  rcases List.eq_nil_or_concat post with rfl | ⟨post', last, rfl⟩
  · obtain ⟨rfl, hlast⟩ := List.append_inj' hsplit rfl
    obtain rfl := List.singleton_inj.1 hlast
    exact he
  · refine h pre e' post' ?_
    have hsplit' : log ++ [e] = (pre ++ e' :: post') ++ [last] := by
      rw [hsplit, List.concat_eq_append, List.append_assoc]
      rfl
    exact (List.append_inj' hsplit' rfl).1

/-- The watch shows the last code issued and what has happened since. -/
theorem watched_spec (user : Nat) : ∀ (log : List CodeEvent) {w : CodeWatch},
    watched user log = some w →
      ∃ before since, log = before ++ .issued user w.code :: since ∧
        (w.usable = true → ∀ e ∈ since, ¬ e.Closes user) := by
  intro log
  induction log using List.reverseRecOn with
  | nil =>
      intro w h
      cases h
  | append_singleton log e ih =>
      intro w h
      rw [watched_concat] at h
      -- an event of another kind, or of another account, comes after the last code
      have hlater {w' : CodeWatch} (hold : watched user log = some w') (hcode : w'.code = w.code)
          (hquiet : w.usable = true → w'.usable = true ∧ ¬ e.Closes user) :
          ∃ before since, log ++ [e] = before ++ .issued user w.code :: since ∧
            (w.usable = true → ∀ e ∈ since, ¬ e.Closes user) := by
        obtain ⟨before, since, rfl, hclosed⟩ := ih hold
        refine ⟨before, since ++ [e], ?_, ?_⟩
        · rw [hcode]
          simp
        · intro husable e' he'
          obtain ⟨hbefore, hnot⟩ := hquiet husable
          rcases List.mem_append.1 he' with hsince | hlast
          · exact hclosed hbefore e' hsince
          · obtain rfl := List.mem_singleton.1 hlast
            exact hnot
      cases e with
      | issued user' code =>
          simp only [CodeEvent.watch] at h
          split at h
          · rename_i huser
            subst huser
            cases h
            exact ⟨log, [], rfl, fun _ e he => by cases he⟩
          · rename_i huser
            exact hlater h rfl fun husable => ⟨husable, huser⟩
      | wrong user' =>
          simp only [CodeEvent.watch] at h
          split at h
          · obtain ⟨w', hold, rfl⟩ := Option.map_eq_some_iff.1 h
            exact hlater hold rfl fun husable => ⟨husable, id⟩
          · exact hlater h rfl fun husable => ⟨husable, id⟩
      | redeemed user' username email otp now =>
          simp only [CodeEvent.watch] at h
          split at h
          · obtain ⟨w', hold, rfl⟩ := Option.map_eq_some_iff.1 h
            exact hlater hold rfl fun husable => by cases husable
          · rename_i huser
            exact hlater h rfl fun husable => ⟨husable, huser⟩
      | ended user' =>
          simp only [CodeEvent.watch] at h
          split at h
          · obtain ⟨w', hold, rfl⟩ := Option.map_eq_some_iff.1 h
            exact hlater hold rfl fun husable => by cases husable
          · rename_i huser
            exact hlater h rfl fun husable => ⟨husable, huser⟩

/-- Legal guesses do not pass the limit. -/
theorem LegalLog.wrong_le (h : LegalLog maxAttempts user log) :
    ∀ {w : CodeWatch}, watched user log = some w → w.wrong ≤ maxAttempts := by
  induction log using List.reverseRecOn with
  | nil =>
      intro w hw
      cases hw
  | append_singleton log e ih =>
      intro w hw
      have hlegal := h log e [] rfl
      -- legality of the longer log restricts to the shorter one
      have hbefore (w' : CodeWatch) : watched user log = some w' → w'.wrong ≤ maxAttempts :=
        ih fun pre e' post hsplit => h pre e' (post ++ [e]) (by rw [hsplit]; simp)
      rw [watched_concat] at hw
      cases e with
      | issued user' code =>
          simp only [CodeEvent.watch] at hw
          split at hw
          · cases hw
            -- a new code starts with no wrong attempts
            exact Nat.zero_le _
          · exact hbefore w hw
      | wrong user' =>
          simp only [CodeEvent.watch] at hw
          split at hw
          · rename_i huser
            obtain ⟨w', hold, rfl⟩ := Option.map_eq_some_iff.1 hw
            -- legality says one more attempt was still allowed
            obtain ⟨w'', hsame, hlt⟩ := hlegal huser
            rw [hold] at hsame
            cases hsame
            exact hlt
          · exact hbefore w hw
      | redeemed user' username email otp now =>
          simp only [CodeEvent.watch] at hw
          split at hw
          · obtain ⟨w', hold, rfl⟩ := Option.map_eq_some_iff.1 hw
            exact hbefore w' hold
          · exact hbefore w hw
      | ended user' =>
          simp only [CodeEvent.watch] at hw
          split at hw
          · obtain ⟨w', hold, rfl⟩ := Option.map_eq_some_iff.1 hw
            exact hbefore w' hold
          · exact hbefore w hw

/-- As long as no other code is issued, the watch counts the wrong ones. -/
theorem foldl_watch_wrong (user : Nat) : ∀ {since : List CodeEvent}, (∀ e ∈ since, ¬ e.Issues user) →
    ∀ w : CodeWatch, ∃ w', since.foldl (CodeEvent.watch user) (some w) = some w' ∧
      w'.wrong = w.wrong + since.count (.wrong user)
  | [], _, w => ⟨w, rfl, rfl⟩
  | e :: since, hquiet, w => by
      have hrest := foldl_watch_wrong user fun e he => hquiet e (List.mem_cons_of_mem _ he)
      cases e with
      | issued user' code =>
          -- the block is quiet, so the new code is another account's
          have hother : user' ≠ user := hquiet _ List.mem_cons_self
          obtain ⟨w', hfold, hwrong⟩ := hrest w
          refine ⟨w', by simpa [CodeEvent.watch, hother] using hfold, ?_⟩
          rw [hwrong]
          simp
      | wrong user' =>
          by_cases huser : user' = user
          · -- one more wrong attempt on both sides; the rest follows from the moved start
            subst huser
            obtain ⟨w', hfold, hwrong⟩ := hrest { w with wrong := w.wrong + 1 }
            refine ⟨w', by simpa [CodeEvent.watch] using hfold, ?_⟩
            rw [hwrong]
            simp
            omega
          · obtain ⟨w', hfold, hwrong⟩ := hrest w
            refine ⟨w', by simpa [CodeEvent.watch, huser] using hfold, ?_⟩
            rw [hwrong]
            simp [huser]
      | redeemed user' username email otp now =>
          by_cases huser : user' = user
          · -- redeeming or ending a code stops its use and counts nothing
            obtain ⟨w', hfold, hwrong⟩ := hrest { w with usable := false }
            refine ⟨w', by simpa [CodeEvent.watch, huser] using hfold, ?_⟩
            rw [hwrong]
            simp
          · obtain ⟨w', hfold, hwrong⟩ := hrest w
            refine ⟨w', by simpa [CodeEvent.watch, huser] using hfold, ?_⟩
            rw [hwrong]
            simp
      | ended user' =>
          by_cases huser : user' = user
          · obtain ⟨w', hfold, hwrong⟩ := hrest { w with usable := false }
            refine ⟨w', by simpa [CodeEvent.watch, huser] using hfold, ?_⟩
            rw [hwrong]
            simp
          · obtain ⟨w', hfold, hwrong⟩ := hrest w
            refine ⟨w', by simpa [CodeEvent.watch, huser] using hfold, ?_⟩
            rw [hwrong]
            simp

theorem LegalLog.codesSound (h : ∀ user, LegalLog maxAttempts user log) :
    CodesSound maxAttempts log := by
  constructor
  · intro pre post user username email otp now hlog
    obtain ⟨w, hw, husable, hname, hemail, hotp, hnow⟩ := h user pre _ post hlog rfl
    obtain ⟨before, since, hpre, hclosed⟩ := watched_spec user pre hw
    exact ⟨before, since, w.code, hpre, hname, hemail, hotp, hnow, hclosed husable⟩
  · intro before since rest user code hlog hquiet
    have hpart : LegalLog maxAttempts user (before ++ .issued user code :: since) := by
      intro pre e post hsplit
      refine h user pre e (post ++ rest) ?_
      rw [hlog, ← List.cons_append, ← List.append_assoc, hsplit]
      simp
    obtain ⟨w, hw, hwrong⟩ := foldl_watch_wrong user hquiet
      { code := code
        wrong := 0
        usable := true }
    have hlast : watched user (before ++ .issued user code :: since) = some w := by
      rw [watched_append, List.foldl_cons]
      simpa [CodeEvent.watch] using hw
    have hle := hpart.wrong_le hlast
    rw [hwrong] at hle
    simpa using hle

end Watch

/-! ## What an operation does to the codes of its account -/

/-- The challenge of the account, before and after an operation, and what the operation shows. -/
inductive CodeEffect (env : AccountSettings) (now : Int) (user : Users)
    (before : Option PasswordResetChallenge) :
    Option PasswordResetChallenge → List CodeEvent → Prop
  | kept : CodeEffect env now user before before []
  | dropped : CodeEffect env now user before none []
  | ended : CodeEffect env now user before none [.ended user.pk]
  | issued (otp : String) : CodeEffect env now user before
      (some
        { user := user.pk
          otpDigest := env.framework.otpDigest user.username (env.framework.casefold user.email) otp
          expiresAt := now + env.resets.timeout
          failedAttempts := 0
          lastSentAt := now })
      [.issued user.pk
        { username := user.username
          email := env.framework.casefold user.email
          otp := otp
          expiresAt := now + env.resets.timeout }]
  | wrong (c : PasswordResetChallenge) (hbefore : before = some c) :
      CodeEffect env now user before (c.failed env.resets) [.wrong user.pk]
  | redeemed (c : PasswordResetChallenge) (otp : String) (hbefore : before = some c)
      (hnow : now < c.expiresAt)
      (hdigest : c.otpDigest =
        env.framework.otpDigest user.username (env.framework.casefold user.email) otp) :
      CodeEffect env now user before none
        [.redeemed user.pk user.username (env.framework.casefold user.email) otp now,
          .ended user.pk]

section Operations

variable {env : AccountSettings} {now : Int} {users : List Users} {sessions : Table LoginSession}
  {user : Users} {challenges : Challenges} {change : UserChange}

theorem requestPasswordReset_codes (username email otp : String) :
    let change := requestPasswordReset env.framework env.resets now username email otp user challenges
    CodeEffect env now user (challenges.resets user.pk) (change.challenges.resets user.pk)
      ((UserOp.requestPasswordReset username email otp).codeEvents env now challenges user change) ∧
      ∀ k, k ≠ user.pk → change.challenges.resets k = challenges.resets k := by
  simp only [requestPasswordReset, UserOp.codeEvents]
  split
  · exact ⟨.kept, fun _ _ => rfl⟩
  · refine ⟨?_, fun k hk => Function.update_of_ne hk _ _⟩
    simp only [UserChange.keep, Challenges.putReset, Function.update_self, if_true]
    exact .issued otp

theorem clear_resets (challenges : Challenges) (user : Nat) :
    (challenges.clear user).resets user = none :=
  Function.update_self _ _ _

theorem clear_resets_of_ne (challenges : Challenges) {user k : Nat} (hk : k ≠ user) :
    (challenges.clear user).resets k = challenges.resets k :=
  Function.update_of_ne hk _ _

theorem forgotPassword_challenges {fw : Framework} {newPassword : Input String} {salt : String}
    (h : forgotPassword fw newPassword salt user challenges = .ok change) :
    change.challenges = challenges.clear user.pk ∧ change.granted = true := by
  unfold forgotPassword at h
  obtain ⟨new, _, h⟩ := demand_bind_eq_ok.1 h
  obtain ⟨_, _, h⟩ := bind_eq_ok.1 h
  cases pure_eq_ok.1 h
  exact ⟨rfl, rfl⟩

theorem resetPasswordWithOtp_codes {username email otp newPassword salt : String}
    (h : resetPasswordWithOtp env.framework env.resets now username email otp newPassword salt user
      challenges = .ok change) :
    CodeEffect env now user (challenges.resets user.pk) (change.challenges.resets user.pk)
      ((UserOp.resetPassword username email otp newPassword salt).codeEvents env now challenges user
        change) ∧
      ∀ k, k ≠ user.pk → change.challenges.resets k = challenges.resets k := by
  unfold resetPasswordWithOtp at h
  simp only [UserOp.codeEvents]
  split at h
  · rename_i hnamed
    cases h
    -- the caller does not name the account: no challenge is read
    have hnot : user.isNamed env.framework username email = false := by simpa using hnamed
    simp only [UserChange.keep, hnot, Bool.false_and]
    exact ⟨.kept, fun _ _ => trivial⟩
  · rename_i hnamed
    have hnamed : user.isNamed env.framework username email = true := by simpa using hnamed
    split at h
    · rename_i hnone
      -- no code was asked for
      cases h
      simp only [UserChange.keep, hnone, Option.any_none, Bool.and_false]
      exact ⟨.kept, fun _ _ => trivial⟩
    · rename_i c hsome
      split at h
      · rename_i hlate
        cases h
        have hpast : ¬ now < c.expiresAt := Int.not_lt.2 hlate
        -- the code is out of time: it is dropped, and nothing is logged
        simp only [UserChange.keep, hsome, Option.any_some, hpast, decide_false, Bool.and_false,
          Challenges.putReset, Function.update_self]
        exact ⟨.dropped, fun k hk => Function.update_of_ne hk _ _⟩
      · rename_i hearly
        have hnow : now < c.expiresAt := Int.not_le.1 hearly
        split at h
        · cases h
          -- the digest does not match: one failed attempt, or the last one allowed
          simp only [UserChange.keep, hsome, hnamed, Option.any_some, hnow, decide_true,
            Bool.and_self, Challenges.putReset, Function.update_self]
          exact ⟨.wrong c rfl, fun k hk => Function.update_of_ne hk _ _⟩
        · rename_i hdigest
          -- the code is right: the password changes and the code is used up
          obtain ⟨hchallenges, hgranted⟩ := forgotPassword_challenges h
          have hdigest := not_not.1 hdigest
          simp only [Users.isNamed, Bool.and_eq_true, decide_eq_true_eq] at hnamed
          simp only [hchallenges, hgranted, if_true, clear_resets, hsome, ← hnamed.1.2,
            ← hnamed.2]
          exact ⟨.redeemed c otp rfl hnow hdigest, fun k hk => clear_resets_of_ne _ hk⟩

/-- What an operation other than a request or a submission shows. -/
def endEvents (op : UserOp) (user : Users) (change : UserChange) : List CodeEvent :=
  if op.endsCodes user (change.save.onto user) then [.ended user.pk] else []

theorem CodeEffect.of_none (op : UserOp) {after : Option PasswordResetChallenge}
    (hnone : after = none) :
    CodeEffect env now user (challenges.resets user.pk) after (endEvents op user change) := by
  subst hnone
  unfold endEvents
  split
  · exact .ended
  · exact .dropped

theorem CodeEffect.of_same {op : UserOp} {after : Option PasswordResetChallenge}
    (hsame : after = challenges.resets user.pk)
    (hends : op.endsCodes user (change.save.onto user) = false) :
    CodeEffect env now user (challenges.resets user.pk) after (endEvents op user change) := by
  subst hsame
  unfold endEvents
  rw [hends]
  exact .kept

theorem changePassword_codes {oldPassword newPassword : Input String} {salt : String}
    (h : changePassword env.framework now oldPassword newPassword salt user challenges = .ok change) :
    change.challenges = challenges.clear user.pk := by
  unfold changePassword at h
  obtain ⟨old, _, h⟩ := demand_bind_eq_ok.1 h
  obtain ⟨new, _, h⟩ := demand_bind_eq_ok.1 h
  obtain ⟨_, h⟩ := require_bind_eq_ok.1 h
  obtain ⟨_, _, h⟩ := bind_eq_ok.1 h
  obtain ⟨_, h⟩ := require_bind_eq_ok.1 h
  obtain ⟨_, _, h⟩ := bind_eq_ok.1 h
  cases pure_eq_ok.1 h
  rfl

theorem logout_codes {token : TokenClaims} {verified : Bool}
    (h : logout token verified user challenges = .ok change) :
    change.challenges = challenges ∧
      (UserOp.logout token verified).endsCodes user (change.save.onto user) = false := by
  unfold logout at h
  obtain ⟨_, h⟩ := require_bind_eq_ok.1 h
  obtain ⟨_, h⟩ := require_bind_eq_ok.1 h
  obtain ⟨_, _, h⟩ := bind_eq_ok.1 h
  cases pure_eq_ok.1 h
  exact ⟨rfl, by simp [UserOp.endsCodes, UserSave.onto, Users.copyField]⟩

theorem requestEmailChange_codes {password email : Input String} {otp : String}
    (h : requestEmailChange env.framework now users password email otp user challenges = .ok change) :
    change.challenges.resets = challenges.resets ∧
      (UserOp.requestEmailChange password email otp).endsCodes user (change.save.onto user) =
        false := by
  unfold requestEmailChange at h
  obtain ⟨_, _, h⟩ := bind_eq_ok.1 h
  obtain ⟨_, h⟩ := require_bind_eq_ok.1 h
  cases pure_eq_ok.1 h
  exact ⟨rfl, by simp [UserOp.endsCodes, UserChange.keep, UserSave.onto]⟩

/-- A confirmed email ends the codes, any other outcome keeps them. -/
theorem confirmEmailChange_codes {password email : Input String} {otp : Option String}
    (h : confirmEmailChange env.framework now users password email otp user challenges =
      .ok change) :
    change.challenges = challenges.clear user.pk ∨ (change.challenges.resets = challenges.resets ∧
      (UserOp.confirmEmailChange password email otp).endsCodes user (change.save.onto user) =
        false) := by
  have hkeep (challenges' : Challenges) :
      (UserOp.confirmEmailChange password email otp).endsCodes user
        ((UserChange.keep user challenges' false).save.onto user) = false := by
    simp [UserOp.endsCodes, UserChange.keep, UserSave.onto]
  unfold confirmEmailChange at h
  obtain ⟨_, _, h⟩ := bind_eq_ok.1 h
  split at h
  · cases pure_eq_ok.1 h
    exact Or.inr ⟨rfl, hkeep _⟩
  · split at h
    · cases pure_eq_ok.1 h
      exact Or.inr ⟨rfl, hkeep _⟩
    · split at h
      · cases pure_eq_ok.1 h
        exact Or.inr ⟨rfl, hkeep _⟩
      · cases pure_eq_ok.1 h
        exact Or.inl rfl

theorem updateUser_codes {edit : AdminEdit} {requestingUser : Nat}
    (h : updateUser env.framework users edit requestingUser user challenges = .ok change) :
    change.challenges = challenges.clear user.pk ∨ (change.challenges = challenges ∧
      (UserOp.updateUser edit requestingUser).endsCodes user (change.save.onto user) = false) := by
  unfold updateUser at h
  obtain ⟨_, h⟩ := require_bind_eq_ok.1 h
  obtain ⟨isActive, _, h⟩ := bind_eq_ok.1 h
  obtain ⟨_, _, h⟩ := bind_eq_ok.1 h
  obtain ⟨role, _, h⟩ := bind_eq_ok.1 h
  obtain ⟨username, _, h⟩ := bind_eq_ok.1 h
  obtain ⟨email, _, h⟩ := bind_eq_ok.1 h
  obtain ⟨reason, _, h⟩ := bind_eq_ok.1 h
  obtain ⟨_, h⟩ := require_bind_eq_ok.1 h
  obtain ⟨_, _, h⟩ := bind_eq_ok.1 h
  cases pure_eq_ok.1 h
  by_cases hends : (user.isActive ∧ isActive = some false) ∨ email.isSome ∨ username.isSome
  · exact Or.inl (if_pos hends)
  · refine Or.inr ⟨if_neg hends, ?_⟩
    obtain ⟨hactive, hnames⟩ := not_or.1 hends
    obtain ⟨hemail, husername⟩ := not_or.1 hnames
    have hemail : email = none := by simpa using hemail
    have husername : username = none := by simpa using husername
    simp only [UserOp.endsCodes, UserSave.onto, hemail, husername, Option.getD_none]
    cases isActive with
    | none => simp
    | some active =>
        cases active with
        | true => simp
        | false => simpa using hactive

theorem deactivateUser_codes {requestingUser : Nat} {reason : Input DeactivationReason}
    (h : deactivateUser users requestingUser reason user challenges = .ok change) :
    change.challenges = challenges.clear user.pk := by
  unfold deactivateUser at h
  obtain ⟨_, _, h⟩ := bind_eq_ok.1 h
  obtain ⟨_, h⟩ := require_bind_eq_ok.1 h
  obtain ⟨_, h⟩ := require_bind_eq_ok.1 h
  obtain ⟨_, h⟩ := require_bind_eq_ok.1 h
  cases pure_eq_ok.1 h
  rfl

theorem updateOwnProfile_codes {edit : ProfileEdit} {signedIn : Users}
    (h : updateOwnProfile env.framework now users edit signedIn user challenges = .ok change) :
    change.challenges = challenges.putReset user.pk none ∨ (change.challenges = challenges ∧
      (UserOp.updateOwnProfile edit signedIn).endsCodes user (change.save.onto user) = false) := by
  unfold updateOwnProfile at h
  obtain ⟨username, _, h⟩ := bind_eq_ok.1 h
  obtain ⟨_, h⟩ := require_bind_eq_ok.1 h
  obtain ⟨_, _, h⟩ := bind_eq_ok.1 h
  obtain ⟨_, h⟩ := require_bind_eq_ok.1 h
  obtain ⟨_, h⟩ := require_bind_eq_ok.1 h
  obtain ⟨_, _, h⟩ := bind_eq_ok.1 h
  cases pure_eq_ok.1 h
  by_cases hrenamed : username.any (fun name => name ≠ user.username) = true
  · exact Or.inl (if_pos hrenamed)
  · refine Or.inr ⟨if_neg hrenamed, ?_⟩
    have hname : username.getD user.username = user.username := by
      cases username with
      | none => rfl
      | some name => simpa using hrenamed
    simp only [UserOp.endsCodes, UserSave.onto, hname]
    simp

variable (now user challenges) in
theorem recordFailedLogin_codes :
    (recordFailedLogin now user challenges).challenges = challenges ∧
      UserOp.failedLogin.endsCodes user ((recordFailedLogin now user challenges).save.onto user) =
        false := by
  unfold recordFailedLogin
  split
  · exact ⟨rfl, by simp [UserOp.endsCodes, UserChange.keep, UserSave.onto]⟩
  · exact ⟨rfl, by simp [UserOp.endsCodes, UserSave.onto, Users.copyField]⟩

/-- Every operation touches the challenge of its own account alone, in one of six ways. -/
theorem UserOp.run_codes {op : UserOp}
    (h : op.run env now users sessions user challenges = .ok change) :
    CodeEffect env now user (challenges.resets user.pk) (change.challenges.resets user.pk)
      (op.codeEvents env now challenges user change) ∧
      ∀ k, k ≠ user.pk → change.challenges.resets k = challenges.resets k := by
  -- services that clear the challenges of the account end its code
  have hcleared (op : UserOp) (hclear : change.challenges = challenges.clear user.pk) :
      CodeEffect env now user (challenges.resets user.pk) (change.challenges.resets user.pk)
        (endEvents op user change) ∧
        ∀ k, k ≠ user.pk → change.challenges.resets k = challenges.resets k := by
    rw [hclear]
    exact ⟨.of_none op (clear_resets _ _), fun k hk => clear_resets_of_ne _ hk⟩
  -- services that touch neither the challenges nor what a code depends on leave it
  have hkept {op : UserOp} (hsame : change.challenges.resets = challenges.resets)
      (hends : op.endsCodes user (change.save.onto user) = false) :
      CodeEffect env now user (challenges.resets user.pk) (change.challenges.resets user.pk)
        (endEvents op user change) ∧
        ∀ k, k ≠ user.pk → change.challenges.resets k = challenges.resets k :=
    ⟨.of_same (congrFun hsame user.pk) hends, fun k _ => congrFun hsame k⟩
  cases op with
  | requestPasswordReset username email otp =>
      cases h
      exact requestPasswordReset_codes username email otp
  | resetPassword username email otp newPassword salt => exact resetPasswordWithOtp_codes h
  | changePassword oldPassword newPassword salt => exact hcleared _ (changePassword_codes h)
  | forgotPassword newPassword salt => exact hcleared _ (forgotPassword_challenges h).1
  | logout token verified =>
      obtain ⟨hsame, hends⟩ := logout_codes h
      exact hkept (congrArg Challenges.resets hsame) hends
  | refresh token verified reverified =>
      obtain ⟨_, _, h⟩ := bind_eq_ok.1 h
      cases pure_eq_ok.1 h
      exact hkept rfl (by simp [UserOp.endsCodes, UserChange.keep, UserSave.onto])
  | requestEmailChange password email otp =>
      obtain ⟨hsame, hends⟩ := requestEmailChange_codes h
      exact hkept hsame hends
  | confirmEmailChange password email otp =>
      rcases confirmEmailChange_codes h with hclear | ⟨hsame, hends⟩
      · exact hcleared _ hclear
      · exact hkept hsame hends
  | updateUser edit requestingUser =>
      rcases updateUser_codes h with hclear | ⟨hsame, hends⟩
      · exact hcleared _ hclear
      · exact hkept (congrArg Challenges.resets hsame) hends
  | deactivateUser requestingUser reason => exact hcleared _ (deactivateUser_codes h)
  | updateOwnProfile edit signedIn =>
      rcases updateOwnProfile_codes h with hclear | ⟨hsame, hends⟩
      · rw [hclear]
        exact ⟨.of_none _ (Function.update_self _ _ _), fun k hk => Function.update_of_ne hk _ _⟩
      · exact hkept (congrArg Challenges.resets hsame) hends
  | failedLogin =>
      cases h
      obtain ⟨hsame, hends⟩ := recordFailedLogin_codes now user challenges
      exact hkept (congrArg Challenges.resets hsame) hends

end Operations

/-! ## The invariant -/

/-- The keyed digest tells identities and codes apart. -/
def Framework.DigestInjective (fw : Framework) : Prop :=
  ∀ username email otp username' email' otp',
    fw.otpDigest username email otp = fw.otpDigest username' email' otp' →
      username = username' ∧ email = email' ∧ otp = otp'

/-- The challenge of an account is the one of the last code issued, still usable, with its wrong
guesses. -/
def Tracks (env : AccountSettings) (w : Option CodeWatch) (c : PasswordResetChallenge) : Prop :=
  ∃ watch, w = some watch ∧ watch.usable = true ∧
    c.otpDigest = env.framework.otpDigest watch.code.username watch.code.email watch.code.otp ∧
      c.expiresAt = watch.code.expiresAt ∧ c.failedAttempts = watch.wrong ∧
        watch.wrong < env.resets.maxAttempts

structure CodesTracked (env : AccountSettings) (S : CodeDesk) : Prop where
  legal : ∀ user, LegalLog env.resets.maxAttempts user S.log
  tracked : ∀ user c, S.resets user = some c → Tracks env (watched user S.log) c

section Invariant

variable {env : AccountSettings} {S : CodeDesk}

/-- The account of an operation stays tracked. -/
theorem CodeEffect.tracked {now : Int} {user : Users} {before after : Option PasswordResetChallenge}
    {events log : List CodeEvent} (heffect : CodeEffect env now user before after events)
    (hdigest : env.framework.DigestInjective) (hmax : 0 < env.resets.maxAttempts)
    (hlegal : LegalLog env.resets.maxAttempts user.pk log)
    (htracked : ∀ c, before = some c → Tracks env (watched user.pk log) c) :
    LegalLog env.resets.maxAttempts user.pk (log ++ events) ∧
      ∀ c, after = some c → Tracks env (watched user.pk (log ++ events)) c := by
  cases heffect with
  | kept =>
      rw [List.append_nil]
      exact ⟨hlegal, htracked⟩
  | dropped =>
      rw [List.append_nil]
      exact ⟨hlegal, fun c h => by cases h⟩
  | ended => exact ⟨hlegal.concat trivial, fun c h => by cases h⟩
  | issued otp =>
      refine ⟨hlegal.concat trivial, ?_⟩
      intro c h
      obtain rfl := Option.some.inj h
      -- the watch starts where the stored challenge does
      refine ⟨_, (watched_concat _ _ _).trans (if_pos rfl), rfl, rfl, rfl, rfl, hmax⟩
  | wrong c hbefore =>
      -- the watch agrees with the stored challenge on its wrong attempts
      obtain ⟨w, hw, husable, hsame, hexpires, hfailed, hlt⟩ := htracked c hbefore
      refine ⟨hlegal.concat fun _ => ⟨w, hw, hlt⟩, ?_⟩
      intro c' h
      unfold PasswordResetChallenge.failed at h
      -- the last wrong attempt removes the challenge
      split at h
      · cases h
      · rename_i hmore
        obtain rfl := Option.some.inj h
        -- otherwise both count one more
        refine ⟨{ w with wrong := w.wrong + 1 }, ?_, husable, hsame, hexpires, ?_, ?_⟩
        · rw [watched_concat, hw]
          exact if_pos rfl
        · exact congrArg (· + 1) hfailed
        · rw [hfailed] at hmore
          exact Nat.not_le.1 hmore
  | redeemed c otp hbefore hnow hcode =>
      obtain ⟨w, hw, husable, hsame, hexpires, _, _⟩ := htracked c hbefore
      -- equal digests come from equal names, emails and codes
      obtain ⟨hname, hemail, hotp⟩ := hdigest _ _ _ _ _ _ (hsame.symm.trans hcode)
      refine ⟨?_, fun c' h => by cases h⟩
      -- first the redemption, then the end of the code that it logs
      have hredeemed := hlegal.concat (e := .redeemed user.pk user.username
        (env.framework.casefold user.email) otp now)
        fun _ => ⟨w, hw, husable, hname, hemail, hotp, hexpires ▸ hnow⟩
      have hended := hredeemed.concat (e := .ended user.pk) trivial
      rwa [List.append_assoc] at hended

/-- The events of an operation are events of its account. -/
theorem CodeEffect.others {now : Int} {user : Users} {before after : Option PasswordResetChallenge}
    {events log : List CodeEvent} (heffect : CodeEffect env now user before after events) {k : Nat}
    (hk : k ≠ user.pk) (hlegal : LegalLog env.resets.maxAttempts k log) :
    LegalLog env.resets.maxAttempts k (log ++ events) ∧
      watched k (log ++ events) = watched k log := by
  have hne : user.pk ≠ k := hk.symm
  cases heffect with
  | kept =>
      rw [List.append_nil]
      exact ⟨hlegal, rfl⟩
  | dropped =>
      rw [List.append_nil]
      exact ⟨hlegal, rfl⟩
  | ended => exact ⟨hlegal.concat trivial, (watched_concat _ _ _).trans (if_neg hne)⟩
  | issued otp => exact ⟨hlegal.concat trivial, (watched_concat _ _ _).trans (if_neg hne)⟩
  | wrong c hbefore =>
      exact ⟨hlegal.concat fun h => absurd h hne, (watched_concat _ _ _).trans (if_neg hne)⟩
  | redeemed c otp hbefore hnow hcode =>
      have hredeemed := hlegal.concat (e := .redeemed user.pk user.username
        (env.framework.casefold user.email) otp now) fun h => absurd h hne
      have hended := hredeemed.concat (e := .ended user.pk) trivial
      rw [List.append_assoc] at hended
      refine ⟨hended, ?_⟩
      rw [watched_append]
      simp [CodeEvent.watch, hne]

variable (env) in
theorem finishAt_challenges {S : SignIns} (time : Int) {k : Nat} {op : UserOp} {copy : Users}
    (hheld : S.users.held k = some (op, copy)) :
    (CodeDesk.finishAt env S time k).challenges =
      ((op.run env time S.users.table.rows S.sessions.table copy S.challenges).toOption.map
        UserChange.challenges).getD S.challenges := by
  unfold CodeDesk.finishAt SignIns.finishUser
  simp only [hheld]
  cases op.run env time S.users.table.rows S.sessions.table copy S.challenges with
  | error e => rfl
  | ok change => rfl

theorem finish_tracked (hdigest : env.framework.DigestInjective)
    (hmax : 0 < env.resets.maxAttempts) (h : CodesTracked env S) (id : Nat) :
    CodesTracked env (S.finish env id) := by
  unfold CodeDesk.finish
  split
  · rename_i user asked _
    split
    · rename_i op copy hheld
      split
      · have hpk : copy.pk = user :=
          (Table.find_eq_some.1 (S.signIns.users.current _ _ _ hheld)).2
        have hchallenges := finishAt_challenges env (op.clock asked S.signIns.now) hheld
        simp only [CodeDesk.table]
        generalize hrun : op.run env (op.clock asked S.signIns.now) S.signIns.users.table.rows
          S.signIns.sessions.table copy S.signIns.challenges = result at hchallenges ⊢
        cases result with
        | error e =>
            -- a refused operation rolls back: no challenge changes and nothing is logged
            refine
              { legal := ?_
                tracked := ?_ }
            · intro k
              simpa [Except.toOption] using h.legal k
            · intro k c hc
              rw [CodeDesk.resets, hchallenges] at hc
              simpa [Except.toOption] using h.tracked k c hc
        | ok change =>
            obtain ⟨heffect, hothers⟩ := UserOp.run_codes hrun
            have hmine := heffect.tracked hdigest hmax (h.legal copy.pk) (h.tracked copy.pk)
            refine
              { legal := ?_
                tracked := ?_ }
            · intro k
              -- the account of the operation, and then every other one
              by_cases hk : k = copy.pk
              · rw [hk]
                exact hmine.1
              · exact (heffect.others hk (h.legal k)).1
            · intro k c hc
              rw [CodeDesk.resets, hchallenges] at hc
              by_cases hk : k = copy.pk
              · rw [hk] at hc ⊢
                exact hmine.2 c hc
              · have hold : S.resets k = some c := (hothers k hk).symm.trans hc
                have hsame := (heffect.others hk (h.legal k)).2
                exact hsame.symm ▸ h.tracked k c hold
      · exact h
    · exact h
  · exact h

/-- A step that shows nothing and leaves each challenge alone or deletes it. -/
theorem CodesTracked.quiet {T : CodeDesk} (h : CodesTracked env S) (hlog : T.log = S.log)
    (hresets : ∀ user c, T.resets user = some c → S.resets user = some c) : CodesTracked env T :=
  { legal := fun user => hlog ▸ h.legal user
    tracked := fun user c hc => hlog ▸ h.tracked user c (hresets user c hc) }

theorem step_tracked (hdigest : env.framework.DigestInjective) (hmax : 0 < env.resets.maxAttempts)
    (h : CodesTracked env S) (action : CodeAction) : CodesTracked env (S.step env action) := by
  cases action with
  | tick seconds => exact h.quiet rfl fun _ _ hc => hc
  | ask id user op =>
      simp only [CodeDesk.step, CodeDesk.ask]
      split
      · exact h
      · split
        · exact h.quiet rfl fun _ _ hc => hc
        · exact h
  | lock id =>
      simp only [CodeDesk.step, CodeDesk.lock]
      split
      · split
        · exact h.quiet rfl fun _ _ hc => hc
        · exact h
      · exact h
  | finish id => exact finish_tracked hdigest hmax h id
  | abort id =>
      simp only [CodeDesk.step, CodeDesk.abort]
      split
      · split
        · exact h.quiet rfl fun _ _ hc => hc
        · exact h
      · exact h
  | mailSent id =>
      simp only [CodeDesk.step, CodeDesk.mailSent]
      split
      · exact h.quiet rfl fun _ _ hc => hc
      · exact h
  | mailFailed id =>
      simp only [CodeDesk.step, CodeDesk.mailFailed]
      split
      · rename_i user otpDigest _
        -- the mailer failed: the challenge of this account is dropped
        refine h.quiet rfl ?_
        intro k c hc
        simp only [CodeDesk.resets, SignIns.dropReset] at hc
        split at hc
        · by_cases hk : k = user
          · subst hk
            simp [Challenges.putReset] at hc
          · have hsame : (S.signIns.challenges.putReset user none).resets k =
                S.signIns.challenges.resets k :=
              Function.update_of_ne hk _ _
            exact hsame.symm.trans hc
        · exact hc
      · exact h

theorem run_tracked (hdigest : env.framework.DigestInjective) (hmax : 0 < env.resets.maxAttempts)
    (h : CodesTracked env S) :
    ∀ actions, CodesTracked env (S.run env actions) := by
  intro actions
  induction actions generalizing S with
  | nil => exact h
  | cons action actions ih => exact ih (step_tracked hdigest hmax h action)

end Invariant

/-- In every run a reset takes the last code issued, in time, once, and before the account changes;
wrong guesses end a code. -/
theorem reset_codes_sound (env : AccountSettings) (hdigest : env.framework.DigestInjective)
    (hmax : 0 < env.resets.maxAttempts) (now : Int) (users : Table Users)
    (sessions : Table LoginSession) (actions : List CodeAction) :
    CodesSound env.resets.maxAttempts ((CodeDesk.init now users sessions).run env actions).log := by
  refine LegalLog.codesSound (run_tracked hdigest hmax ?_ actions).legal
  exact
    { legal := fun _ => LegalLog.nil
      tracked := fun _ _ h => by cases h }

/-! ## A reset by code -/

/-- A word before others, each of its letters marked, so that its end shows. -/
def markWord : List Char → List Char → List Char
  | [], rest => '.' :: rest
  | letter :: word, rest => '-' :: letter :: markWord word rest

theorem markWord_inj : ∀ {word word' rest rest' : List Char},
    markWord word rest = markWord word' rest' → word = word' ∧ rest = rest'
  | [], [], _, _, h => ⟨rfl, (List.cons.inj h).2⟩
  | [], _ :: _, _, _, h => absurd (List.cons.inj h).1 (by decide)
  | _ :: _, [], _, _, h => absurd (List.cons.inj h).1 (by decide)
  | letter :: word, letter' :: word', rest, rest', h => by
      have htail := (List.cons.inj h).2
      have hletter : letter = letter' := (List.cons.inj htail).1
      obtain ⟨hword, hrest⟩ := markWord_inj (List.cons.inj htail).2
      exact ⟨by rw [hletter, hword], hrest⟩

/-- The plain framework, with a digest that can be read back. -/
def Framework.readable : Framework :=
  { Framework.plain with
    otpDigest := fun username email otp =>
      String.ofList (markWord username.toList (markWord email.toList otp.toList)) }

theorem readable_digestInjective : Framework.readable.DigestInjective := by
  intro username email otp username' email' otp' h
  obtain ⟨husername, hrest⟩ := markWord_inj (String.ofList_injective h)
  obtain ⟨hemail, hotp⟩ := markWord_inj hrest
  exact ⟨String.toList_injective husername, String.toList_injective hemail,
    String.toList_injective hotp⟩

/-- A code is asked for and mailed, a wrong one is tried, and then the right one. -/
def resetByCode : List CodeAction :=
  let request := UserOp.requestPasswordReset "" "" "12"
  let guess := UserOp.resetPassword "" "" "21" "new" ""
  let redeem := UserOp.resetPassword "" "" "12" "new" ""
  [.ask 1 1 request, .lock 1, .finish 1, .mailSent 1, .ask 2 1 guess, .lock 2, .finish 2,
    .tick 60, .ask 3 1 redeem, .lock 3, .finish 3]

theorem reset_codes_sound_readable :
    let log := ((CodeDesk.init 0 (Table.empty.create (account .staff)) Table.empty).run
      { AccountSettings.plain with framework := Framework.readable } resetByCode).log
    (log = [.issued 1 { username := "", email := "", otp := "12", expiresAt := 300 }, .wrong 1,
      .redeemed 1 "" "" "12" 60, .ended 1]) ∧ CodesSound 5 log :=
  ⟨rfl, reset_codes_sound { AccountSettings.plain with framework := Framework.readable }
    readable_digestInjective (by decide) 0 (Table.empty.create (account .staff)) Table.empty
    resetByCode⟩

end Accounts
end RosarioDairy
