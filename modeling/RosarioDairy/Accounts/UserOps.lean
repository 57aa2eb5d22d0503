import RosarioDairy.Accounts.RecoveryServices
import RosarioDairy.Accounts.Sessions
import RosarioDairy.Accounts.UserServices

/-!
# UserOps — everything that runs under the lock of a user's row

The services that lock a user as one type of operations, and the one fact about their saves that
revocation rests on: none of them lowers the token generation.
-/

namespace RosarioDairy
namespace Accounts

open Foundations

/-- What a deployment fixes for its accounts. -/
structure AccountSettings where
  framework : Framework
  resets : ResetSettings
  idleTimeout : Int

/-- Settings of a deployment with the framework that accepts every value. -/
def AccountSettings.plain : AccountSettings :=
  { framework := .plain
    resets :=
      { cooldown := 60
        timeout := 300
        maxAttempts := 5 }
    idleTimeout := 900 }

inductive UserOp
  | changePassword (oldPassword newPassword : Input String) (salt : String)
  | forgotPassword (newPassword : Input String) (salt : String)
  | logout (token : TokenClaims) (verified : Bool)
  | refresh (token : TokenClaims) (verified reverified : Bool)
  | requestPasswordReset (username email otp : String)
  | resetPassword (username email otp newPassword salt : String)
  | requestEmailChange (password email : Input String) (otp : String)
  | confirmEmailChange (password email : Input String) (otp : Option String)
  | updateUser (edit : AdminEdit) (requestingUser : Nat)
  | deactivateUser (requestingUser : Nat) (reason : Input DeactivationReason)
  | updateOwnProfile (edit : ProfileEdit) (signedIn : Users)
  | failedLogin

/-- The operation on the locked copy of the user. -/
def UserOp.run (env : AccountSettings) (now : Int) (users : List Users)
    (sessions : Table LoginSession) (user : Users) (challenges : Challenges) :
    UserOp → Except Error UserChange
  | .changePassword oldPassword newPassword salt =>
      Accounts.changePassword env.framework now oldPassword newPassword salt user challenges
  | .forgotPassword newPassword salt =>
      Accounts.forgotPassword env.framework newPassword salt user challenges
  | .logout token verified => Accounts.logout token verified user challenges
  | .refresh token verified reverified => do
      let _ ← refreshToken env.framework now sessions token verified reverified user
      return .keep user challenges true
  | .requestPasswordReset username email otp =>
      .ok (Accounts.requestPasswordReset env.framework env.resets now username email otp user
        challenges)
  | .resetPassword username email otp newPassword salt =>
      resetPasswordWithOtp env.framework env.resets now username email otp newPassword salt user
        challenges
  | .requestEmailChange password email otp =>
      Accounts.requestEmailChange env.framework now users password email otp user challenges
  | .confirmEmailChange password email otp =>
      Accounts.confirmEmailChange env.framework now users password email otp user challenges
  | .updateUser edit requestingUser =>
      Accounts.updateUser env.framework users edit requestingUser user challenges
  | .deactivateUser requestingUser reason =>
      Accounts.deactivateUser users requestingUser reason user challenges
  | .updateOwnProfile edit signedIn =>
      Accounts.updateOwnProfile env.framework now users edit signedIn user challenges
  | .failedLogin => .ok (recordFailedLogin now user challenges)

/-! ## Token generations -/

/-- The token generation of a user after a change of the row they were read from. -/
def UserChange.generation (change : UserChange) (user : Users) : Nat :=
  (change.save.onto user).tokenVersion

section Generations

variable {fw : Framework} {now : Int} {users : List Users} {user : Users}
  {challenges : Challenges} {change : UserChange}

theorem changePassword_generation {oldPassword newPassword : Input String} {salt : String}
    (h : changePassword fw now oldPassword newPassword salt user challenges = .ok change) :
    change.generation user = user.tokenVersion + 1 := by
  unfold changePassword at h
  rcases demand_bind_eq_ok.1 h with ⟨old, _, h⟩
  rcases demand_bind_eq_ok.1 h with ⟨new, _, h⟩
  rcases require_bind_eq_ok.1 h with ⟨_, h⟩
  rcases bind_eq_ok.1 h with ⟨_, _, h⟩
  rcases require_bind_eq_ok.1 h with ⟨_, h⟩
  rcases bind_eq_ok.1 h with ⟨_, _, h⟩
  cases pure_eq_ok.1 h
  rfl

theorem forgotPassword_generation {newPassword : Input String} {salt : String}
    (h : forgotPassword fw newPassword salt user challenges = .ok change) :
    change.generation user = user.tokenVersion + 1 := by
  unfold forgotPassword at h
  rcases demand_bind_eq_ok.1 h with ⟨new, _, h⟩
  rcases bind_eq_ok.1 h with ⟨_, _, h⟩
  cases pure_eq_ok.1 h
  rfl

theorem logout_generation {token : TokenClaims} {verified : Bool}
    (h : logout token verified user challenges = .ok change) :
    change.generation user = user.tokenVersion + 1 := by
  unfold logout at h
  rcases require_bind_eq_ok.1 h with ⟨_, h⟩
  rcases require_bind_eq_ok.1 h with ⟨_, h⟩
  rcases bind_eq_ok.1 h with ⟨_, _, h⟩
  cases pure_eq_ok.1 h
  rfl

/-- A request for a code saves nothing of the user. -/
theorem requestPasswordReset_generation (settings : ResetSettings) (username email otp : String) :
    (requestPasswordReset fw settings now username email otp user challenges).generation user =
      user.tokenVersion := by
  simp only [requestPasswordReset]
  split
  · rfl
  · rfl

theorem resetPasswordWithOtp_generation {settings : ResetSettings}
    {username email otp newPassword salt : String}
    (h : resetPasswordWithOtp fw settings now username email otp newPassword salt user challenges =
      .ok change) :
    change.generation user = user.tokenVersion ∨ change.generation user = user.tokenVersion + 1 := by
  unfold resetPasswordWithOtp at h
  split at h
  · cases h
    exact .inl rfl
  · split at h
    · cases h
      exact .inl rfl
    · split at h
      · cases h
        exact .inl rfl
      · split at h
        · cases h
          exact .inl rfl
        · exact .inr (forgotPassword_generation h)

theorem requestEmailChange_generation {password email : Input String} {otp : String}
    (h : requestEmailChange fw now users password email otp user challenges = .ok change) :
    change.generation user = user.tokenVersion := by
  unfold requestEmailChange at h
  rcases bind_eq_ok.1 h with ⟨_, _, h⟩
  rcases require_bind_eq_ok.1 h with ⟨_, h⟩
  cases pure_eq_ok.1 h
  rfl

theorem confirmEmailChange_generation {password email : Input String} {otp : Option String}
    (h : confirmEmailChange fw now users password email otp user challenges = .ok change) :
    change.generation user = user.tokenVersion ∨ change.generation user = user.tokenVersion + 1 := by
  unfold confirmEmailChange at h
  rcases bind_eq_ok.1 h with ⟨_, _, h⟩
  split at h
  · cases pure_eq_ok.1 h
    exact .inl rfl
  · split at h
    · cases pure_eq_ok.1 h
      exact .inl rfl
    · split at h
      · cases pure_eq_ok.1 h
        exact .inl rfl
      · cases pure_eq_ok.1 h
        exact .inr rfl

/-- An edit that ends the active state of a user ends the generation of their tokens, another edit
keeps it. -/
theorem updateUser_generation {edit : AdminEdit} {requestingUser : Nat}
    (h : updateUser fw users edit requestingUser user challenges = .ok change) :
    change.generation user =
      if user.isActive = true ∧ (change.save.onto user).isActive = false then user.tokenVersion + 1
      else user.tokenVersion := by
  unfold updateUser at h
  rcases require_bind_eq_ok.1 h with ⟨_, h⟩
  rcases bind_eq_ok.1 h with ⟨isActive, _, h⟩
  rcases bind_eq_ok.1 h with ⟨_, _, h⟩
  rcases bind_eq_ok.1 h with ⟨role, _, h⟩
  rcases bind_eq_ok.1 h with ⟨username, _, h⟩
  rcases bind_eq_ok.1 h with ⟨email, _, h⟩
  rcases bind_eq_ok.1 h with ⟨reason, _, h⟩
  rcases require_bind_eq_ok.1 h with ⟨_, h⟩
  rcases bind_eq_ok.1 h with ⟨_, _, h⟩
  cases pure_eq_ok.1 h
  have hleaving : (user.isActive = true ∧ isActive.getD user.isActive = false) ↔
      (user.isActive = true ∧ isActive = some false) := by
    cases isActive with
    | none => simp
    | some active => simp
  simp only [UserChange.generation, UserSave.onto, hleaving]

theorem deactivateUser_generation {requestingUser : Nat} {reason : Input DeactivationReason}
    (h : deactivateUser users requestingUser reason user challenges = .ok change) :
    change.generation user = user.tokenVersion + 1 := by
  unfold deactivateUser at h
  rcases bind_eq_ok.1 h with ⟨_, _, h⟩
  rcases require_bind_eq_ok.1 h with ⟨_, h⟩
  rcases require_bind_eq_ok.1 h with ⟨_, h⟩
  rcases require_bind_eq_ok.1 h with ⟨_, h⟩
  cases pure_eq_ok.1 h
  rfl

theorem updateOwnProfile_generation {edit : ProfileEdit} {signedIn : Users}
    (h : updateOwnProfile fw now users edit signedIn user challenges = .ok change) :
    change.generation user = user.tokenVersion := by
  unfold updateOwnProfile at h
  rcases bind_eq_ok.1 h with ⟨_, _, h⟩
  rcases require_bind_eq_ok.1 h with ⟨_, h⟩
  rcases bind_eq_ok.1 h with ⟨_, _, h⟩
  rcases require_bind_eq_ok.1 h with ⟨_, h⟩
  rcases require_bind_eq_ok.1 h with ⟨_, h⟩
  rcases bind_eq_ok.1 h with ⟨_, _, h⟩
  cases pure_eq_ok.1 h
  rfl

theorem recordFailedLogin_generation :
    (recordFailedLogin now user challenges).generation user = user.tokenVersion := by
  unfold recordFailedLogin
  split
  · rfl
  · rfl

/-- No operation lowers the token generation. -/
theorem UserOp.generation_le {env : AccountSettings} {sessions : Table LoginSession} {op : UserOp}
    (h : op.run env now users sessions user challenges = .ok change) :
    user.tokenVersion ≤ change.generation user := by
  cases op with
  | changePassword oldPassword newPassword salt =>
      -- a new password, a logout and a deactivation end the old tokens
      rw [changePassword_generation h]
      exact Nat.le_succ _
  | forgotPassword newPassword salt =>
      rw [forgotPassword_generation h]
      exact Nat.le_succ _
  | logout token verified =>
      rw [logout_generation h]
      exact Nat.le_succ _
  | refresh token verified reverified =>
      rcases bind_eq_ok.1 h with ⟨_, _, h⟩
      cases pure_eq_ok.1 h
      exact Nat.le_refl _
  | requestPasswordReset username email otp =>
      cases h
      rw [requestPasswordReset_generation]
  | resetPassword username email otp newPassword salt =>
      rcases resetPasswordWithOtp_generation h with hsame | hnext
      · -- a reset with a wrong code keeps the generation
        exact Nat.le_of_eq hsame.symm
      · rw [hnext]
        exact Nat.le_succ _
  | requestEmailChange password email otp =>
      rw [requestEmailChange_generation h]
  | confirmEmailChange password email otp =>
      rcases confirmEmailChange_generation h with hsame | hnext
      · exact Nat.le_of_eq hsame.symm
      · rw [hnext]
        exact Nat.le_succ _
  | updateUser edit requestingUser =>
      rw [updateUser_generation h]
      split
      · exact Nat.le_succ _
      · exact Nat.le_refl _
  | deactivateUser requestingUser reason =>
      rw [deactivateUser_generation h]
      exact Nat.le_succ _
  | updateOwnProfile edit signedIn =>
      rw [updateOwnProfile_generation h]
  | failedLogin =>
      cases h
      rw [recordFailedLogin_generation]

end Generations

end Accounts
end RosarioDairy
