import RosarioDairy.Accounts.AuthService

/-!
# Sessions — sign-in sessions, tokens and their checks

`create_session_token`, `check_session` and `record_activity`, the checks of a request
(`RevocableJWTAuthentication`) and of a token refresh (`PasswordAwareTokenRefreshSerializer`), and
the steps of a login.  What the token package says of a token's signature, lifetime and blacklist
enters as `verified`.
-/

namespace RosarioDairy
namespace Accounts

open Foundations

/-! ## Sessions -/

def sessionRequired : Error := .authenticationFailed "session_required" "Please sign in again."

def sessionIdleTimeout : Error :=
  .authenticationFailed "session_idle_timeout"
    "You were signed out due to inactivity. Please sign in again."

/-- The session a login opens under the key `pk`. -/
def newSession (timeout now : Int) (user : Users) (pk : Nat) : LoginSession :=
  { pk := pk
    user := user.pk
    lastActivityAt := now
    idleExpiresAt := now + timeout }

/-- The deadline of a session is still ahead. -/
def requireDeadline (now : Int) (session : LoginSession) : Except Error Unit :=
  require (now < session.idleExpiresAt) sessionIdleTimeout

/-- `check_session`: the session of the token, when it is the user's and its deadline is ahead. -/
def checkSession (now : Int) (sessions : Table LoginSession) (user : Nat) (token : TokenClaims) :
    Except Error LoginSession := do
  let sid ← demand token.sid sessionRequired
  let session ← demand (sessions.find sid) sessionRequired
  require (session.user = user) sessionRequired
  requireDeadline now session
  return session

/-- The session after reported activity. -/
def LoginSession.active (timeout now : Int) (session : LoginSession) : LoginSession :=
  { session with
    lastActivityAt := now
    idleExpiresAt := now + timeout }

/-! ## Requests -/

/-- `JWTAuthentication.get_user` of the token package, for a token it has validated: the user of the
token, active and with the password the token was issued under. -/
def tokenUser (fw : Framework) (users : Table Users) (token : TokenClaims) : Except Error Users := do
  let user ← demand (users.find token.userId)
    (.authenticationFailed "user_not_found" "User not found")
  require user.isActive (.authenticationFailed "user_inactive" "User is inactive")
  require (token.hashPassword = some (fw.hashPassword user.password))
    (.authenticationFailed "password_changed" "The user's password has been changed.")
  return user

/-- The first half of `RevocableJWTAuthentication.get_user`, on one read of the user. -/
def authenticateUser (fw : Framework) (users : Table Users) (token : TokenClaims)
    (verified : Bool) : Except Error Users := do
  require verified .tokenError
  let user ← tokenUser fw users token
  checkTokenVersion user token
  return user

/-! ## Refreshes -/

/-- `PasswordAwareTokenRefreshSerializer.validate` on the user it has locked; the token is verified
once more at the end, and the new one has its claims. -/
def refreshToken (fw : Framework) (now : Int) (sessions : Table LoginSession)
    (token : TokenClaims) (verified reverified : Bool) (user : Users) :
    Except Error (LoginSession × TokenClaims) := do
  require verified .tokenError
  require (token.userId = user.pk ∧ user.isActive)
    (.authenticationFailed "no_active_account" "No active account found for the given token.")
  checkTokenVersion user token
  let session ← checkSession now sessions user.pk token
  require (token.hashPassword = some (fw.hashPassword user.password))
    (.authenticationFailed "password_changed" "The user password has been changed.")
  require reverified .tokenError
  return (session, token)

/-! ## Logins -/

/-- `LOGIN_MAX_FAILED_ATTEMPTS`. -/
def loginMaxFailedAttempts : Nat := 5

/-- `LOGIN_LOCKOUT_MINUTES`, in seconds. -/
def loginLockout : Int := 15 * 60

/-- The account is not locked out. -/
def Users.isOpen (now : Int) (user : Users) : Bool := user.lockedUntil.all (fun t => t ≤ now)

/-- `authenticate`: the user with this name and password, when active. -/
def verifyPassword (fw : Framework) (users : Table Users) (username password : String) :
    Option Users :=
  users.rows.find? (fun user => user.username = username && user.isActive &&
    fw.checkPassword password user.password)

/-- `_record_failed_login` on the user it has locked. -/
def recordFailedLogin (now : Int) (user : Users) (challenges : Challenges) : UserChange :=
  if user.lockedUntil.any (fun t => now < t) then
    .keep user challenges false
  else
    let attempts := (if user.lockedUntil.isSome then 0 else user.failedLoginAttempts) + 1
    let lockedUntil :=
      if loginMaxFailedAttempts ≤ attempts then some (now + loginLockout) else none
    { save := { obj := { user with
                  failedLoginAttempts := attempts
                  lockedUntil := lockedUntil }
                fields := some [.failedLoginAttempts, .lockedUntil] }
      challenges := challenges
      granted := true }

/-- The counter a successful login clears, saved by name. -/
def clearedFailures (user : Users) : UserSave :=
  { obj := { user with
      failedLoginAttempts := 0
      lockedUntil := none }
    fields := some [.failedLoginAttempts, .lockedUntil] }

/-- `update_last_login`. -/
def notedLogin (now : Int) (user : Users) : UserSave :=
  { obj := { user with lastLogin := some now }
    fields := some [.lastLogin] }

/-! ## What an accepted token shows -/

theorem checkTokenVersion_ok {user : Users} {token : TokenClaims} {u : Unit}
    (h : checkTokenVersion user token = .ok u) : token.generation = user.tokenVersion :=
  require_eq_ok.1 h

/-- An accepted session is the one of the token, belongs to the user and is not over. -/
theorem checkSession_ok {now : Int} {sessions : Table LoginSession} {user : Nat}
    {token : TokenClaims} {session : LoginSession}
    (h : checkSession now sessions user token = .ok session) :
    ∃ sid, token.sid = some sid ∧ sessions.find sid = some session ∧ session.user = user ∧
      now < session.idleExpiresAt := by
  unfold checkSession at h
  rcases demand_bind_eq_ok.1 h with ⟨sid, hsid, h⟩
  rcases demand_bind_eq_ok.1 h with ⟨found, hfound, h⟩
  rcases require_bind_eq_ok.1 h with ⟨huser, h⟩
  rcases require_bind_eq_ok.1 h with ⟨hdeadline, h⟩
  cases pure_eq_ok.1 h
  exact ⟨sid, hsid, hfound, huser, hdeadline⟩

/-- A user read for a request is the active user of the token, in its generation. -/
theorem authenticateUser_ok {fw : Framework} {users : Table Users} {token : TokenClaims}
    {verified : Bool} {user : Users}
    (h : authenticateUser fw users token verified = .ok user) :
    users.find token.userId = some user ∧ user.isActive = true ∧
      token.generation = user.tokenVersion := by
  unfold authenticateUser tokenUser at h
  rcases require_bind_eq_ok.1 h with ⟨_, h⟩
  rcases bind_eq_ok.1 h with ⟨found, hread, h⟩
  rcases bind_eq_ok.1 h with ⟨_, hversion, h⟩
  cases pure_eq_ok.1 h
  rcases demand_bind_eq_ok.1 hread with ⟨row, hrow, hread⟩
  rcases require_bind_eq_ok.1 hread with ⟨hactive, hread⟩
  rcases require_bind_eq_ok.1 hread with ⟨_, hread⟩
  cases pure_eq_ok.1 hread
  exact ⟨hrow, hactive, checkTokenVersion_ok hversion⟩

theorem refreshToken_ok {fw : Framework} {now : Int} {sessions : Table LoginSession}
    {token token' : TokenClaims} {verified reverified : Bool} {user : Users}
    {session : LoginSession}
    (h : refreshToken fw now sessions token verified reverified user = .ok (session, token')) :
    token.userId = user.pk ∧ user.isActive = true ∧ token.generation = user.tokenVersion ∧
      checkSession now sessions user.pk token = .ok session ∧ token' = token := by
  unfold refreshToken at h
  rcases require_bind_eq_ok.1 h with ⟨_, h⟩
  rcases require_bind_eq_ok.1 h with ⟨⟨huser, hactive⟩, h⟩
  rcases bind_eq_ok.1 h with ⟨_, hversion, h⟩
  rcases bind_eq_ok.1 h with ⟨found, hsession, h⟩
  rcases require_bind_eq_ok.1 h with ⟨_, h⟩
  rcases require_bind_eq_ok.1 h with ⟨_, h⟩
  rcases pure_pair_eq_ok.1 h with ⟨rfl, rfl⟩
  exact ⟨huser, hactive, checkTokenVersion_ok hversion, hsession, rfl⟩

end Accounts
end RosarioDairy
