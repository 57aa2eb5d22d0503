import RosarioDairy.Accounts.SignIns

/-!
# ResetCodes — password resets by code, at work

Requests for codes, submissions of codes and changes of accounts, interleaved over the rows and
challenges of `SignIns`.  A request reads its account and the clock before it waits for the lock of
the row, and mails its code after it has released the lock; if the mail fails, it deletes the challenge
that carries its own digest, whenever that is.
-/

namespace RosarioDairy
namespace Accounts

open Foundations

/-- `_matching_active_user`: the account of the request, read without a lock. -/
def matchingActiveUser (fw : Framework) (users : Table Users) (username email : String) :
    Option Users :=
  (users.rows.find? fun user => user.username = username && user.isActive).filter fun user =>
    fw.casefold user.email = fw.casefold email

/-- A code that has been issued: for which identity, and until when. -/
structure IssuedCode where
  username : String
  email : String
  otp : String
  expiresAt : Int
  deriving DecidableEq, Repr

/-- What a run shows of the codes of an account.  A wrong code is one that was compared; the codes of
an account end with a change of its password, username or email, or with its deactivation. -/
inductive CodeEvent
  | issued (user : Nat) (code : IssuedCode)
  | wrong (user : Nat)
  | redeemed (user : Nat) (username email otp : String) (now : Int)
  | ended (user : Nat)
  deriving DecidableEq, Repr

/-- How far a call has come: it has read the clock, holds the lock of the row, or mails its code. -/
inductive CodeTask
  | asked (user : Nat) (op : UserOp) (now : Int)
  | locked (user : Nat) (now : Int)
  | mailing (user : Nat) (otpDigest : String)

/-- The accounts at work, the calls under way, which of them holds the lock of an account, and what has
been seen. -/
structure CodeDesk where
  signIns : SignIns
  tasks : Nat → Option CodeTask
  holder : Nat → Option Nat
  log : List CodeEvent

inductive CodeAction
  | tick (seconds : Nat)
  | ask (id user : Nat) (op : UserOp)
  | lock (id : Nat)
  | finish (id : Nat)
  | abort (id : Nat)
  | mailSent (id : Nat)
  | mailFailed (id : Nat)

/-- The account of a call: a request or a submission looks it up by its names. -/
def UserOp.concerns (fw : Framework) (users : Table Users) (user : Nat) : UserOp → Bool
  | .requestPasswordReset username email _ =>
      (matchingActiveUser fw users username email).any fun row => row.pk = user
  | .resetPassword username email _ _ _ =>
      (matchingActiveUser fw users username email).any fun row => row.pk = user
  | _ => true

/-- The instant an operation works with: a request for a code has read it before the lock. -/
def UserOp.clock (asked now : Int) : UserOp → Int
  | .requestPasswordReset .. => asked
  | _ => now

/-- The change ends the codes of the account. -/
def UserOp.endsCodes (copy saved : Users) (op : UserOp) : Bool :=
  (match op with
    | .changePassword .. => true
    | .forgotPassword .. => true
    | _ => false) ||
  saved.password ≠ copy.password || saved.username ≠ copy.username || saved.email ≠ copy.email ||
    (copy.isActive && !saved.isActive)

/-- What a granted or refused operation shows. -/
def UserOp.codeEvents (env : AccountSettings) (now : Int) (challenges : Challenges) (copy : Users)
    (change : UserChange) : UserOp → List CodeEvent
  | .requestPasswordReset _ _ otp =>
      if change.granted then
        [.issued copy.pk
          { username := copy.username
            email := env.framework.casefold copy.email
            otp := otp
            expiresAt := now + env.resets.timeout }]
      else []
  | .resetPassword username email otp _ _ =>
      if change.granted then
        [.redeemed copy.pk username (env.framework.casefold email) otp now, .ended copy.pk]
      else if copy.isNamed env.framework username email &&
          (challenges.resets copy.pk).any (fun c => now < c.expiresAt) then
        [.wrong copy.pk]
      else []
  | op => if op.endsCodes copy (change.save.onto copy) then [.ended copy.pk] else []

/-- The mail that is left to send after an operation. -/
def UserOp.mail (fw : Framework) (copy : Users) (change : UserChange) : UserOp → Option CodeTask
  | .requestPasswordReset _ _ otp =>
      if change.granted then
        some (.mailing copy.pk (fw.otpDigest copy.username (fw.casefold copy.email) otp))
      else none
  | _ => none

namespace CodeDesk

/-- Nobody has been issued a code yet. -/
def init (now : Int) (users : Table Users) (sessions : Table LoginSession) : CodeDesk :=
  { signIns := .init now users sessions
      { resets := fun _ => none
        emailChanges := fun _ => none }
    tasks := fun _ => none
    holder := fun _ => none
    log := [] }

def table (S : CodeDesk) : Table Users := S.signIns.users.table

def resets (S : CodeDesk) (user : Nat) : Option PasswordResetChallenge :=
  S.signIns.challenges.resets user

def setTask (S : CodeDesk) (id : Nat) (task : Option CodeTask) : CodeDesk :=
  { S with tasks := Function.update S.tasks id task }

def ask (env : AccountSettings) (S : CodeDesk) (id user : Nat) (op : UserOp) : CodeDesk :=
  match S.tasks id with
  | some _ => S
  | none =>
      if op.concerns env.framework S.table user then
        S.setTask id (some (.asked user op S.signIns.now))
      else S

/-- `select_for_update`, which waits while the row is locked. -/
def lock (S : CodeDesk) (id : Nat) : CodeDesk :=
  match S.tasks id with
  | some (.asked user op now) =>
      match S.signIns.users.held user with
      | none =>
          { S with
            signIns := { S.signIns with users := S.signIns.users.lock user op }
            tasks := Function.update S.tasks id (some (.locked user now))
            holder := Function.update S.holder user (some id) }
      | some _ => S
  | _ => S

/-- The operation runs at an instant of its own, and the clock goes on. -/
def finishAt (env : AccountSettings) (S : SignIns) (time : Int) (user : Nat) : SignIns :=
  { ({ S with now := time }).finishUser env user with now := S.now }

/-- The operation on the locked row, and the end of its transaction. -/
def finish (env : AccountSettings) (S : CodeDesk) (id : Nat) : CodeDesk :=
  match S.tasks id with
  | some (.locked user asked) =>
      match S.signIns.users.held user with
      | some (op, copy) =>
          if S.holder user = some id then
            let time := op.clock asked S.signIns.now
            let result := op.run env time S.table.rows S.signIns.sessions.table copy
              S.signIns.challenges
            { signIns := finishAt env S.signIns time user
              tasks := Function.update S.tasks id
                (result.toOption.bind fun change => op.mail env.framework copy change)
              holder := Function.update S.holder user none
              log := S.log ++ (result.toOption.map fun change =>
                op.codeEvents env time S.signIns.challenges copy change).getD [] }
          else S
      | none => S
  | _ => S

/-- The transaction is rolled back. -/
def abort (S : CodeDesk) (id : Nat) : CodeDesk :=
  match S.tasks id with
  | some (.locked user _) =>
      if S.holder user = some id then
        { S with
          signIns := { S.signIns with users := S.signIns.users.release user }
          tasks := Function.update S.tasks id none
          holder := Function.update S.holder user none }
      else S
  | _ => S

def mailSent (S : CodeDesk) (id : Nat) : CodeDesk :=
  match S.tasks id with
  | some (.mailing _ _) => S.setTask id none
  | _ => S

/-- The challenge of a code that was not delivered is deleted. -/
def mailFailed (S : CodeDesk) (id : Nat) : CodeDesk :=
  match S.tasks id with
  | some (.mailing user otpDigest) =>
      { S.setTask id none with signIns := S.signIns.dropReset user otpDigest }
  | _ => S

def step (env : AccountSettings) (S : CodeDesk) : CodeAction → CodeDesk
  | .tick seconds => { S with signIns := { S.signIns with now := S.signIns.now + seconds } }
  | .ask id user op => S.ask env id user op
  | .lock id => S.lock id
  | .finish id => S.finish env id
  | .abort id => S.abort id
  | .mailSent id => S.mailSent id
  | .mailFailed id => S.mailFailed id

def run (env : AccountSettings) (S : CodeDesk) (actions : List CodeAction) : CodeDesk :=
  runAll (step env) S actions

end CodeDesk

end Accounts
end RosarioDairy
