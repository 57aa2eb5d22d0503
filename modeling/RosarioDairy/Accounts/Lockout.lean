import RosarioDairy.Accounts.SignIns

/-!
# Lockout — logins that count their failures

The steps of `CooldownTokenObtainPairSerializer.validate`, of `_record_failed_login` and of password
resets, interleaved over the committed rows of `SignIns`.  A login reads the account and checks
`locked_until`, verifies the password, and then either records its failure under the lock of the row
or issues a token and saves the cleared counter.
-/

namespace RosarioDairy
namespace Accounts

open Foundations

/-- What a run shows of its lockouts.  A failure is counted, or ignored because the account is locked
out already; a login is told by its number `p`. -/
inductive LockoutEvent
  | rejected (p user : Nat)
  | counted (p user : Nat)
  | ignored (p user : Nat) (deadline now : Int)
  | lockedOut (user : Nat) (deadline : Int)
  | reset (user : Nat)
  | issued (p user : Nat) (now : Int)
  | cleared (p user : Nat) (now : Int)
  deriving DecidableEq, Repr

/-- A login that found its account open, with the account its name led to, or one whose credentials
were wrong and that has a failure to record. -/
inductive LoginAttempt
  | checked (password : String) (user : Option Nat)
  | failed (user : Nat)
  deriving DecidableEq, Repr

/-- The accounts at work, the logins that are not verified, which of them holds the lock of an
account to record its failure, and what has been seen. -/
structure Lockouts where
  signIns : SignIns
  attempts : Nat → Option LoginAttempt
  recording : Nat → Option Nat
  log : List LockoutEvent

/-- What a request for a new password does under the lock of the row. -/
inductive Recovery
  | byAdmin (newPassword : Input String) (salt : String)
  | requestCode (username email otp : String)
  | byCode (username email otp newPassword salt : String)

def Recovery.op : Recovery → UserOp
  | .byAdmin newPassword salt => .forgotPassword newPassword salt
  | .requestCode username email otp => .requestPasswordReset username email otp
  | .byCode username email otp newPassword salt =>
      .resetPassword username email otp newPassword salt

/-- The operations that serve such requests. -/
def UserOp.recovers : UserOp → Bool
  | .forgotPassword .. => true
  | .requestPasswordReset .. => true
  | .resetPassword .. => true
  | _ => false

inductive LockoutAction
  | tick (seconds : Nat)
  | startLogin (p : Nat) (username password : String)
  | verifyLogin (p : Nat)
  | lockFailure (p : Nat)
  | recordFailure (p : Nat)
  | issueToken (p : Nat)
  | noteLogin (p : Nat)
  | clearFailures (p : Nat)
  | lockRecovery (user : Nat) (recovery : Recovery)
  | finishRecovery (user : Nat)

namespace Lockouts

def init (signIns : SignIns) : Lockouts :=
  { signIns := signIns
    attempts := fun _ => none
    recording := fun _ => none
    log := [] }

def table (S : Lockouts) : Table Users := S.signIns.users.table

/-- The account a login names, locked or not. -/
def findUser (S : Lockouts) (username : String) : Option Nat :=
  (S.table.rows.find? fun user => user.username = username).map Users.pk

/-- The check of `locked_until`; a login that finds its account locked ends. -/
def startLogin (S : Lockouts) (p : Nat) (username password : String) : Lockouts :=
  if (S.signIns.logins p).isSome || (S.attempts p).isSome then S
  else
    let signIns := S.signIns.startLogin p username
    let attempt := (signIns.logins p).map fun _ => LoginAttempt.checked password (S.findUser username)
    { S with
      signIns := signIns
      attempts := Function.update S.attempts p attempt }

/-- `authenticate`; with wrong credentials for an account that exists, a failure is left to record. -/
def verifyLogin (env : AccountSettings) (S : Lockouts) (p : Nat) : Lockouts :=
  match S.attempts p with
  | some (.checked password user) =>
      let signIns := S.signIns.verifyLogin env p password
      let failed := if (signIns.logins p).isSome then none else user
      { S with
        signIns := signIns
        attempts := Function.update S.attempts p (failed.map .failed)
        log := S.log ++ (failed.map (LockoutEvent.rejected p)).toList }
  | _ => S

/-- `select_for_update` of `_record_failed_login`. -/
def lockFailure (S : Lockouts) (p : Nat) : Lockouts :=
  match S.attempts p with
  | some (.failed user) =>
      match S.signIns.users.held user with
      | none =>
          { S with
            signIns := { S.signIns with users := S.signIns.users.lock user .failedLogin }
            recording := Function.update S.recording user (some p) }
      | some _ => S
  | _ => S

/-- What the record of a failure does to the account it has locked. -/
def failureEvents (now : Int) (p : Nat) (user : Users) (challenges : Challenges) :
    List LockoutEvent :=
  if now < user.lockedUntil.getD now then
    [.ignored p user.pk (user.lockedUntil.getD now) now]
  else
    .counted p user.pk ::
      ((recordFailedLogin now user challenges).save.obj.lockedUntil.map
        (LockoutEvent.lockedOut user.pk)).toList

/-- The rest of `_record_failed_login`. -/
def recordFailure (env : AccountSettings) (S : Lockouts) (p : Nat) : Lockouts :=
  match S.attempts p with
  | some (.failed user) =>
      match S.signIns.users.held user with
      | some (.failedLogin, copy) =>
          if S.recording user = some p then
            { signIns := S.signIns.finishUser env user
              attempts := Function.update S.attempts p none
              recording := Function.update S.recording user none
              log := S.log ++ failureEvents S.signIns.now p copy S.signIns.challenges }
          else S
      | _ => S
  | _ => S

/-- `create_session_token` -/
def issueToken (env : AccountSettings) (S : Lockouts) (p : Nat) : Lockouts :=
  match S.signIns.logins p with
  | some (.verified user) =>
      { S with
        signIns := S.signIns.issueToken env p
        log := S.log ++ [.issued p user.pk S.signIns.now] }
  | _ => S

/-- The save of the cleared counter, which waits while the row is locked. -/
def clearFailures (S : Lockouts) (p : Nat) : Lockouts :=
  match S.signIns.logins p with
  | some (.noted user) =>
      match S.signIns.users.held user.pk with
      | none =>
          { S with
            signIns := S.signIns.clearFailures p
            log := S.log ++ [.cleared p user.pk S.signIns.now] }
      | some _ => S
  | _ => S

/-- A new password ends the lockout of the account. -/
def recoveryEvents (env : AccountSettings) (S : Lockouts) (user : Users) :
    UserOp → List LockoutEvent
  | .requestPasswordReset .. => []
  | op =>
      match op.run env S.signIns.now S.table.rows S.signIns.sessions.table user
        S.signIns.challenges with
      | .ok change => if change.granted then [.reset user.pk] else []
      | .error _ => []

/-- A reset or a request for a code ends. -/
def finishRecovery (env : AccountSettings) (S : Lockouts) (user : Nat) : Lockouts :=
  match S.signIns.users.held user with
  | none => S
  | some (op, copy) =>
      if op.recovers then
        { S with
          signIns := S.signIns.finishUser env user
          log := S.log ++ S.recoveryEvents env copy op }
      else S

def step (env : AccountSettings) (S : Lockouts) : LockoutAction → Lockouts
  | .tick seconds => { S with signIns := { S.signIns with now := S.signIns.now + seconds } }
  | .startLogin p username password => S.startLogin p username password
  | .verifyLogin p => S.verifyLogin env p
  | .lockFailure p => S.lockFailure p
  | .recordFailure p => S.recordFailure env p
  | .issueToken p => S.issueToken env p
  | .noteLogin p => { S with signIns := S.signIns.noteLogin p }
  | .clearFailures p => S.clearFailures p
  | .lockRecovery user recovery =>
      { S with signIns := { S.signIns with users := S.signIns.users.lock user recovery.op } }
  | .finishRecovery user => S.finishRecovery env user

def run (env : AccountSettings) (S : Lockouts) (actions : List LockoutAction) : Lockouts :=
  runAll (step env) S actions

end Lockouts

end Accounts
end RosarioDairy
