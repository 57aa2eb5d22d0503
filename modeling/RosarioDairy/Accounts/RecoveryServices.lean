import RosarioDairy.Accounts.AuthService
import RosarioDairy.Text

/-!
# RecoveryServices — password resets and email changes by code

Codes are issued and redeemed under the lock of the user's row.  A wrong code counts against its
challenge and five of them end it; a right one changes the user and ends both kinds of challenges.
-/

namespace RosarioDairy
namespace Accounts

open Foundations

/-! ## Password resets -/

/-- The settings of password reset codes. -/
structure ResetSettings where
  cooldown : Int
  timeout : Int
  maxAttempts : Nat

/-- The locked user still is the one the request names. -/
def Users.isNamed (fw : Framework) (username email : String) (user : Users) : Bool :=
  user.isActive && user.username = username && fw.casefold user.email = fw.casefold email

/-- `request_password_reset` under the user lock; a request that does not match changes nothing. -/
def requestPasswordReset (fw : Framework) (settings : ResetSettings) (now : Int)
    (username email otp : String) (user : Users) (challenges : Challenges) : UserChange :=
  let recent := (challenges.resets user.pk).any (fun c => now < c.lastSentAt + settings.cooldown)
  if !user.isNamed fw username email || recent then
    .keep user challenges false
  else
    .keep user
      (challenges.putReset user.pk (some
        { user := user.pk
          otpDigest := fw.otpDigest user.username (fw.casefold user.email) otp
          expiresAt := now + settings.timeout
          failedAttempts := 0
          lastSentAt := now }))
      true

/-- A wrong code: one more failed attempt, or the end of the challenge. -/
def PasswordResetChallenge.failed (settings : ResetSettings) (c : PasswordResetChallenge) :
    Option PasswordResetChallenge :=
  if settings.maxAttempts ≤ c.failedAttempts + 1 then none
  else some { c with failedAttempts := c.failedAttempts + 1 }

/-- `reset_password_with_otp` under the user lock. -/
def resetPasswordWithOtp (fw : Framework) (settings : ResetSettings) (now : Int)
    (username email otp newPassword salt : String) (user : Users) (challenges : Challenges) :
    Except Error UserChange :=
  if !user.isNamed fw username email then
    .ok (.keep user challenges false)
  else
    match challenges.resets user.pk with
    | none => .ok (.keep user challenges false)
    | some c =>
        if c.expiresAt ≤ now then
          .ok (.keep user (challenges.putReset user.pk none) false)
        else if c.otpDigest ≠ fw.otpDigest user.username (fw.casefold user.email) otp then
          .ok (.keep user (challenges.putReset user.pk (c.failed settings)) false)
        else
          forgotPassword fw (.given newPassword) salt user challenges

/-! ## Email changes -/

/-- `_credentials`: the new email, once the password and the address are checked. -/
def emailCredentials (fw : Framework) (users : List Users) (password email : Input String)
    (user : Users) : Except Error String := do
  require user.isActive (.valueError "Current password is required.")
  let password ← demand password.value (.valueError "Current password is required.")
  require (fw.checkPassword password user.password)
    (.valueError "Current password is required.")
  let email ← demand email.value (.valueError "A valid email is required.")
  let email := fw.normalizeEmail (strip email)
  require (fw.isEmail email) (.valueError "A valid email is required.")
  require (fw.casefold email ≠ fw.casefold user.email)
    (.valueError "Choose a different email address.")
  require (∀ row ∈ users, row.pk = user.pk ∨ ¬ fw.iexact row.email email)
    (.valueError "Email is unavailable.")
  return email

/-- The digest of an email change code. -/
def emailOtpDigest (fw : Framework) (user : Users) (email otp : String) : String :=
  fw.emailDigest user.pk user.password (fw.casefold email) otp

/-- `request_email_change` under the user lock. -/
def requestEmailChange (fw : Framework) (now : Int) (users : List Users)
    (password email : Input String) (otp : String) (user : Users) (challenges : Challenges) :
    Except Error UserChange := do
  let email ← emailCredentials fw users password email user
  require (∀ c ∈ challenges.emailChanges user.pk, c.lastSentAt + 60 ≤ now)
    (.valueError "Wait one minute before requesting another code.")
  return .keep user
    (challenges.putEmailChange user.pk (some
      { user := user.pk
        email := email
        otpDigest := emailOtpDigest fw user email otp
        expiresAt := now + 10 * 60
        failedAttempts := 0
        lastSentAt := now }))
    true

/-- A wrong code: one more failed attempt, or the end of the challenge. -/
def EmailChangeChallenge.failed (c : EmailChangeChallenge) : Option EmailChangeChallenge :=
  if 5 ≤ c.failedAttempts + 1 then none
  else some { c with failedAttempts := c.failedAttempts + 1 }

/-- `confirm_email_change` under the user lock. -/
def confirmEmailChange (fw : Framework) (now : Int) (users : List Users)
    (password email : Input String) (otp : Option String) (user : Users)
    (challenges : Challenges) : Except Error UserChange := do
  let email ← emailCredentials fw users password email user
  match challenges.emailChanges user.pk with
  | none => return .keep user challenges false
  | some c =>
      if c.expiresAt ≤ now then
        return .keep user (challenges.putEmailChange user.pk none) false
      else if fw.casefold c.email ≠ fw.casefold email ∨
          otp.map (emailOtpDigest fw user email) ≠ some c.otpDigest then
        return .keep user (challenges.putEmailChange user.pk c.failed) false
      else
        return { save := { obj := { user with
                             email := email
                             tokenVersion := user.tokenVersion + 1
                             lastProfileUpdateAt := some now }
                           fields := some [.email, .tokenVersion, .lastProfileUpdateAt] }
                 challenges := challenges.clear user.pk
                 granted := true }

end Accounts
end RosarioDairy
