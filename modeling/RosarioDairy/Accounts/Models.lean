import RosarioDairy.Foundations.LockedTable
import RosarioDairy.Inventory.Models

/-!
# Models — accounts, sign-in sessions and challenges

The rows of the accounts application.  Instants are counted in seconds.  What the web framework and
the token package compute (password hashes, validators, digests, the checks of a token's signature
and lifetime) is not part of the repository and enters as a `Framework` or as the outcome of a call.
-/

namespace RosarioDairy
namespace Accounts

open Foundations

/-- `Users.DEACTIVATION_REASONS`. -/
inductive DeactivationReason
  | none
  | leave
  | suspended
  | resigned
  | terminated
  deriving DecidableEq, Repr

structure Users where
  pk : Nat
  username : String
  email : String
  password : String
  role : Role
  isActive : Bool
  deactivationReason : DeactivationReason
  firstName : String
  lastName : String
  phoneNumber : Option String
  address : Option String
  failedLoginAttempts : Nat
  lockedUntil : Option Int
  lastProfileUpdateAt : Option Int
  lastPasswordChangeAt : Option Int
  lastLogin : Option Int
  tokenVersion : Nat
  deriving DecidableEq, Repr

instance : Row Users := ⟨Users.pk⟩

/-- One sign-in, shared by its access and rotated refresh tokens. -/
structure LoginSession where
  pk : Nat
  user : Nat
  lastActivityAt : Int
  idleExpiresAt : Int
  deriving DecidableEq, Repr

instance : Row LoginSession := ⟨LoginSession.pk⟩

structure PasswordResetChallenge where
  user : Nat
  otpDigest : String
  expiresAt : Int
  failedAttempts : Nat
  lastSentAt : Int
  deriving DecidableEq, Repr

structure EmailChangeChallenge where
  user : Nat
  email : String
  otpDigest : String
  expiresAt : Int
  failedAttempts : Nat
  lastSentAt : Int
  deriving DecidableEq, Repr

/-! ## Challenges -/

/-- The challenge tables; a user has at most one challenge of each kind. -/
structure Challenges where
  resets : Nat → Option PasswordResetChallenge
  emailChanges : Nat → Option EmailChangeChallenge

namespace Challenges

def putReset (c : Challenges) (user : Nat) (challenge : Option PasswordResetChallenge) :
    Challenges :=
  { c with resets := Function.update c.resets user challenge }

def putEmailChange (c : Challenges) (user : Nat) (challenge : Option EmailChangeChallenge) :
    Challenges :=
  { c with emailChanges := Function.update c.emailChanges user challenge }

/-- Delete both challenges of a user. -/
def clear (c : Challenges) (user : Nat) : Challenges :=
  (c.putReset user none).putEmailChange user none

end Challenges

/-! ## Saving a user -/

/-- The columns the services name in `update_fields`. -/
inductive UserField
  | password
  | tokenVersion
  | lastPasswordChangeAt
  | failedLoginAttempts
  | lockedUntil
  | email
  | lastProfileUpdateAt
  | lastLogin
  deriving DecidableEq, Repr

/-- Write one column of the object to the row. -/
def Users.copyField (obj row : Users) : UserField → Users
  | .password => { row with password := obj.password }
  | .tokenVersion => { row with tokenVersion := obj.tokenVersion }
  | .lastPasswordChangeAt => { row with lastPasswordChangeAt := obj.lastPasswordChangeAt }
  | .failedLoginAttempts => { row with failedLoginAttempts := obj.failedLoginAttempts }
  | .lockedUntil => { row with lockedUntil := obj.lockedUntil }
  | .email => { row with email := obj.email }
  | .lastProfileUpdateAt => { row with lastProfileUpdateAt := obj.lastProfileUpdateAt }
  | .lastLogin => { row with lastLogin := obj.lastLogin }

/-- An object to save, in the named columns only or in all of them. -/
structure UserSave where
  obj : Users
  fields : Option (List UserField)

/-- The row after the save. -/
def UserSave.onto (save : UserSave) (row : Users) : Users :=
  match save.fields with
  | some fields => fields.foldl (fun row field => save.obj.copyField row field) row
  | none => { save.obj with pk := row.pk }

theorem pk_copyFields (obj : Users) :
    ∀ (fields : List UserField) (row : Users),
      (fields.foldl (fun row field => obj.copyField row field) row).pk = row.pk
  | [], _ => rfl
  | field :: fields, row => by
      rw [List.foldl_cons, pk_copyFields obj fields]
      cases field with
      | _ => rfl

theorem UserSave.onto_pk (save : UserSave) (row : Users) : (save.onto row).pk = row.pk := by
  unfold UserSave.onto
  split
  · exact pk_copyFields save.obj _ row
  · rfl

/-- What a service does to a user: the object it saves, the challenges it leaves, and whether the
request was granted. -/
structure UserChange where
  save : UserSave
  challenges : Challenges
  granted : Bool

theorem UserChange.onto_pk (change : UserChange) (_copy row : Users) (_hpk : _copy.pk = row.pk) :
    (change.save.onto row).pk = row.pk :=
  change.save.onto_pk row

/-- A change that saves nothing. -/
def UserChange.keep (user : Users) (challenges : Challenges) (granted : Bool) : UserChange :=
  { save := { obj := user, fields := some [] }
    challenges := challenges
    granted := granted }

/-! ## Inputs -/

/-- A value of a request body: of the expected type, or anything else. -/
inductive Input (α : Type)
  | given (value : α)
  | other
  deriving DecidableEq, Repr

def Input.value {α : Type} : Input α → Option α
  | .given value => some value
  | .other => none

/-- What the services use of the web framework, its validators and its digests. -/
structure Framework where
  checkPassword : (raw stored : String) → Bool
  /-- `make_password` with the salt it draws. -/
  makePassword : (raw salt : String) → String
  validatePassword : String → Users → List String
  fullClean : Users → List String
  normalizeEmail : String → String
  isEmail : String → Bool
  casefold : String → String
  /-- Equality ignoring case, as the database computes it. -/
  iexact : String → String → Bool
  /-- `get_md5_hash_password`. -/
  hashPassword : String → String
  emailDigest : (user : Nat) → (password email otp : String) → String
  otpDigest : (username email otp : String) → String

/-- The claims of a token that the services read. -/
structure TokenClaims where
  userId : Nat
  tokenVersion : Option Nat
  /-- The session id, when the claim is a UUID. -/
  sid : Option Nat
  hashPassword : Option String
  deriving DecidableEq, Repr

/-- `token.get('token_version', 0)`. -/
def TokenClaims.generation (token : TokenClaims) : Nat := token.tokenVersion.getD 0

/-! ## Plain accounts -/

/-- A framework that accepts every value. -/
def Framework.plain : Framework :=
  { checkPassword := fun raw stored => raw = stored
    makePassword := fun raw _ => raw
    validatePassword := fun _ _ => []
    fullClean := fun _ => []
    normalizeEmail := id
    isEmail := fun _ => true
    casefold := id
    iexact := fun a b => a = b
    hashPassword := id
    emailDigest := fun _ _ _ otp => otp
    otpDigest := fun _ _ otp => otp }

/-- An active account. -/
def account (role : Role) (pk : Nat) : Users :=
  { pk := pk
    username := ""
    email := ""
    password := ""
    role := role
    isActive := true
    deactivationReason := .none
    firstName := ""
    lastName := ""
    phoneNumber := none
    address := none
    failedLoginAttempts := 0
    lockedUntil := none
    lastProfileUpdateAt := none
    lastPasswordChangeAt := none
    lastLogin := none
    tokenVersion := 0 }

end Accounts
end RosarioDairy
