import RosarioDairy.Accounts.Models

/-!
# AuthService — passwords and logout

`change_password`, `forgot_password` and `logout` on the copy of the user they hold under the row
lock.  Each of them moves the user to the next token generation.
-/

namespace RosarioDairy
namespace Accounts

open Foundations

/-- `PASSWORD_CHANGE_COOLDOWN_MINUTES`, in seconds. -/
def passwordChangeCooldown : Int := 15 * 60

/-- The messages of a validator as one error. -/
def requireValid (messages : List String) : Except Error Unit :=
  require (messages = []) (.valueError (" ".intercalate messages))

/-- `check_token_version`. -/
def checkTokenVersion (user : Users) (token : TokenClaims) : Except Error Unit :=
  require (token.generation = user.tokenVersion)
    (.authenticationFailed "session_revoked" "This session has been revoked.")

/-- The wait after a password change, with the minutes left in its message. -/
def requirePasswordCooldown (now : Int) (user : Users) : Except Error Unit :=
  match user.lastPasswordChangeAt with
  | none => .ok ()
  | some last =>
      let elapsed := now - last
      require (passwordChangeCooldown ≤ elapsed)
        (.valueError ("Password can only be changed once every 15 minutes. Try again in " ++
          toString ((passwordChangeCooldown - elapsed) / 60 + 1) ++ " minute(s)."))

def changePassword (fw : Framework) (now : Int) (oldPassword newPassword : Input String)
    (salt : String) (user : Users) (challenges : Challenges) : Except Error UserChange := do
  let old ← demand oldPassword.value (.valueError "Passwords must be text.")
  let new ← demand newPassword.value (.valueError "Passwords must be text.")
  require user.isActive (.valueError "This account is inactive.")
  requirePasswordCooldown now user
  require (fw.checkPassword old user.password) (.valueError "Old Password is Incorrect")
  requireValid (fw.validatePassword new user)
  let obj := { user with
    password := fw.makePassword new salt
    tokenVersion := user.tokenVersion + 1
    lastPasswordChangeAt := some now }
  return { save := { obj := obj
                     fields := some [.password, .tokenVersion, .lastPasswordChangeAt] }
           challenges := challenges.clear user.pk
           granted := true }

/-- `forgot_password`: the reset an administrator or a code grants. -/
def forgotPassword (fw : Framework) (newPassword : Input String) (salt : String) (user : Users)
    (challenges : Challenges) : Except Error UserChange := do
  let new ← demand newPassword.value (.valueError "Password must be text.")
  requireValid (fw.validatePassword new user)
  let obj := { user with
    password := fw.makePassword new salt
    tokenVersion := user.tokenVersion + 1
    failedLoginAttempts := 0
    lockedUntil := none }
  return { save := { obj := obj
                     fields := some
                       [.password, .tokenVersion, .failedLoginAttempts, .lockedUntil] }
           challenges := challenges.clear user.pk
           granted := true }

/-- `logout`; `verified` is what the token package says of the refresh token. -/
def logout (refreshToken : TokenClaims) (verified : Bool) (user : Users)
    (challenges : Challenges) : Except Error UserChange := do
  require verified .tokenError
  require (refreshToken.userId = user.pk)
    (.valueError "Refresh token does not belong to the authenticated user.")
  checkTokenVersion user refreshToken
  return { save := { obj := { user with tokenVersion := user.tokenVersion + 1 }
                     fields := some [.tokenVersion] }
           challenges := challenges
           granted := true }

end Accounts
end RosarioDairy
