import RosarioDairy.Accounts.UserOps

/-!
# SignIns — accounts and sessions at work

Logins, requests, refreshes, activity reports and account changes, interleaved step by step over the
committed rows and one clock that never runs backwards.  Account changes and refreshes hold the lock
of the user's row from their read to their save, activity reports the lock of the session's row;
logins and requests read without a lock and go on with what they have read.
-/

namespace RosarioDairy
namespace Accounts

open Foundations

/-- How far a login has come, with the user object it goes on with. -/
inductive LoginPhase
  | named (username : String)
  | verified (user : Users)
  | issued (user : Users)
  | noted (user : Users)

/-- A token that was accepted: by which request, or by a refresh, and for which user and session. -/
structure Acceptance where
  request : Option Nat
  token : TokenClaims
  user : Users
  session : LoginSession
  now : Int

/-- The clock, the committed rows with their locks, the logins and the requests under way, and, for
the record of the proof only, the tokens accepted so far. -/
structure SignIns where
  now : Int
  users : LockedTable Users UserOp
  sessions : LockedTable LoginSession Unit
  challenges : Challenges
  logins : Nat → Option LoginPhase
  requests : Nat → Option (Users × TokenClaims)
  accepted : List Acceptance

/-- Nothing is under way yet. -/
def SignIns.init (now : Int) (users : Table Users) (sessions : Table LoginSession)
    (challenges : Challenges) : SignIns :=
  { now := now
    users := .unlocked users
    sessions := .unlocked sessions
    challenges := challenges
    logins := fun _ => none
    requests := fun _ => none
    accepted := [] }

/-- One step of somebody's work.  A lock is taken before the change of a user or the extension of a
session it is for; a login and a request go through their steps in the order listed. -/
inductive SignInAction
  | tick (seconds : Nat)
  | lockUser (user : Nat) (op : UserOp)
  | finishUser (user : Nat)
  | abortUser (user : Nat)
  | startLogin (p : Nat) (username : String)
  | verifyLogin (p : Nat) (password : String)
  | issueToken (p : Nat)
  | noteLogin (p : Nat)
  | clearFailures (p : Nat)
  | lockSession (user : Nat) (token : TokenClaims)
  | finishActivity (session : Nat)
  | abortActivity (session : Nat)
  | readUser (p : Nat) (token : TokenClaims) (verified : Bool)
  | readSession (p : Nat)
  | dropReset (user : Nat) (otpDigest : String)
  | dropEmailChange (user : Nat) (otpDigest : String)

namespace SignIns

/-- The token a refresh accepts; no other operation under the lock of a user accepts one. -/
def refreshAcceptance (env : AccountSettings) (S : SignIns) (user : Users) :
    UserOp → List Acceptance
  | .refresh token verified reverified =>
      match refreshToken env.framework S.now S.sessions.table token verified reverified user with
      | .ok (session, _) =>
          [{ request := none
             token := token
             user := user
             session := session
             now := S.now }]
      | .error _ => []
  | _ => []

/-- The operation that holds the lock of a user ends. -/
def finishUser (env : AccountSettings) (S : SignIns) (k : Nat) : SignIns :=
  match S.users.held k with
  | none => S
  | some (op, user) =>
      match op.run env S.now S.users.table.rows S.sessions.table user S.challenges with
      | .error _ => { S with users := S.users.release k }
      | .ok change =>
          { S with
            users := S.users.save k (fun _ row => change.save.onto row)
              change.onto_pk
            challenges := change.challenges
            accepted := S.accepted ++ S.refreshAcceptance env user op }

def setLogin (S : SignIns) (p : Nat) (phase : Option LoginPhase) : SignIns :=
  { S with logins := Function.update S.logins p phase }

/-- One step of a login; a step that is not due changes nothing. -/
def startLogin (S : SignIns) (p : Nat) (username : String) : SignIns :=
  if S.users.table.rows.any (fun user => user.username = username && !user.isOpen S.now) then S
  else S.setLogin p (some (.named username))

def verifyLogin (env : AccountSettings) (S : SignIns) (p : Nat) (password : String) : SignIns :=
  match S.logins p with
  | some (.named username) =>
      S.setLogin p ((verifyPassword env.framework S.users.table username password).map .verified)
  | _ => S

def issueToken (env : AccountSettings) (S : SignIns) (p : Nat) : SignIns :=
  match S.logins p with
  | some (.verified user) =>
      { S.setLogin p (some (.issued user)) with
        sessions := S.sessions.insert (newSession env.idleTimeout S.now user) }
  | _ => S

/-- Save some columns of the object of a login; the save waits while the row is locked. -/
def saveLogin (S : SignIns) (p : Nat) (user : Users) (save : UserSave)
    (next : Option LoginPhase) : SignIns :=
  match S.users.held user.pk with
  | some _ => S
  | none =>
      { S.setLogin p next with users := S.users.touch user.pk save.onto save.onto_pk }

def noteLogin (S : SignIns) (p : Nat) : SignIns :=
  match S.logins p with
  | some (.issued user) => S.saveLogin p user (notedLogin S.now user) (some (.noted user))
  | _ => S

def clearFailures (S : SignIns) (p : Nat) : SignIns :=
  match S.logins p with
  | some (.noted user) => S.saveLogin p user (clearedFailures user) none
  | _ => S

/-- The first check of `record_activity`, under the lock of the session. -/
def lockSession (S : SignIns) (user : Nat) (token : TokenClaims) : SignIns :=
  match checkSession S.now S.sessions.table user token with
  | .ok session => { S with sessions := S.sessions.lock session.pk () }
  | .error _ => S

/-- The second check of `record_activity`, at the instant it writes. -/
def finishActivity (env : AccountSettings) (S : SignIns) (k : Nat) : SignIns :=
  match S.sessions.held k with
  | none => S
  | some (_, session) =>
      match requireDeadline S.now session with
      | .error _ => { S with sessions := S.sessions.release k }
      | .ok _ =>
          { S with
            sessions := S.sessions.save k (fun _ row => row.active env.idleTimeout S.now)
              (fun _ _ _ => rfl) }

/-- `RevocableJWTAuthentication` reads and checks the user of the token first. -/
def readUser (env : AccountSettings) (S : SignIns) (p : Nat) (token : TokenClaims)
    (verified : Bool) : SignIns :=
  match authenticateUser env.framework S.users.table token verified with
  | .ok user => { S with requests := Function.update S.requests p (some (user, token)) }
  | .error _ => S

/-- The session is checked in a second read. -/
def readSession (S : SignIns) (p : Nat) : SignIns :=
  match S.requests p with
  | none => S
  | some (user, token) =>
      match checkSession S.now S.sessions.table user.pk token with
      | .error _ => { S with requests := Function.update S.requests p none }
      | .ok session =>
          { S with
            requests := Function.update S.requests p none
            accepted := S.accepted ++
              [{ request := some p
                 token := token
                 user := user
                 session := session
                 now := S.now }] }

/-- A challenge whose code was not delivered is deleted, unless a newer one has taken its place. -/
def dropReset (S : SignIns) (user : Nat) (otpDigest : String) : SignIns :=
  if (S.challenges.resets user).any (fun c => c.otpDigest = otpDigest) then
    { S with challenges := S.challenges.putReset user none }
  else S

def dropEmailChange (S : SignIns) (user : Nat) (otpDigest : String) : SignIns :=
  if (S.challenges.emailChanges user).any (fun c => c.otpDigest = otpDigest) then
    { S with challenges := S.challenges.putEmailChange user none }
  else S

def step (env : AccountSettings) (S : SignIns) : SignInAction → SignIns
  | .tick seconds => { S with now := S.now + seconds }
  | .lockUser user op => { S with users := S.users.lock user op }
  | .finishUser user => S.finishUser env user
  | .abortUser user => { S with users := S.users.release user }
  | .startLogin p username => S.startLogin p username
  | .verifyLogin p password => S.verifyLogin env p password
  | .issueToken p => S.issueToken env p
  | .noteLogin p => S.noteLogin p
  | .clearFailures p => S.clearFailures p
  | .lockSession user token => S.lockSession user token
  | .finishActivity session => S.finishActivity env session
  | .abortActivity session => { S with sessions := S.sessions.release session }
  | .readUser p token verified => S.readUser env p token verified
  | .readSession p => S.readSession p
  | .dropReset user otpDigest => S.dropReset user otpDigest
  | .dropEmailChange user otpDigest => S.dropEmailChange user otpDigest

def run (env : AccountSettings) (S : SignIns) (actions : List SignInAction) : SignIns :=
  runAll (step env) S actions

end SignIns

end Accounts
end RosarioDairy
