import RosarioDairy.Accounts.AuthService
import RosarioDairy.Text

/-!
# UserServices — edits of accounts

`update_user` and `deactivate_user` of administrators, and `update_own_profile` of the user.  All
three save the whole row they hold under the lock; leaving the active state moves the user to the
next token generation.
-/

namespace RosarioDairy
namespace Accounts

open Foundations

/-- A name or an email is free when no other user has it, ignoring case. -/
def IsFree (fw : Framework) (users : List Users) (user : Users) (column : Users → String)
    (value : String) : Prop :=
  ∀ row ∈ users, row.pk = user.pk ∨ ¬ fw.iexact (column row) value

instance (fw : Framework) (users : List Users) (user : Users) (column : Users → String)
    (value : String) : Decidable (IsFree fw users user column value) := by
  unfold IsFree
  infer_instance

/-- Some other user is an active administrator. -/
def OtherAdmin (users : List Users) (user : Users) : Prop :=
  ∃ row ∈ users, row.role = .admin ∧ row.isActive ∧ row.pk ≠ user.pk

instance (users : List Users) (user : Users) : Decidable (OtherAdmin users user) := by
  unfold OtherAdmin
  infer_instance

/-! ## Administrators -/

/-- The fields of an administrator's request; absent keys are `none`. -/
structure AdminEdit where
  unknown : List String
  username : Option (Input String)
  role : Option (Input Role)
  isActive : Option (Input Bool)
  deactivationReason : Option (Input DeactivationReason)
  email : Option (Input String)
  firstName : Option String
  lastName : Option String
  phoneNumber : Option (Option String)
  address : Option (Option String)
  currentPassword : Option (Input String)

def invalidReason : Error :=
  .valueError "Invalid reason. Must be one of ['leave', 'suspended', 'resigned', 'terminated']."

/-- A reason an account can be deactivated for. -/
def deactivationReasonOf (reason : Input DeactivationReason) : Except Error DeactivationReason :=
  match reason with
  | .given .none => .error invalidReason
  | .given reason => .ok reason
  | .other => .error invalidReason

/-- What an administrator may not do to their own account. -/
def requireSelfEdit (fw : Framework) (edit : AdminEdit) (requestingUser : Nat) (user : Users) :
    Except Error Unit := do
  let isSelf := user.pk = requestingUser
  require (isSelf → ∀ email ∈ edit.email, email = .given user.email)
    (.valueError "Use /accounts/email-change/ to verify your recovery email.")
  require (isSelf → (∀ username ∈ edit.username, username = .given user.username) ∨
      ∃ given ∈ edit.currentPassword, ∃ password ∈ given.value,
        fw.checkPassword password user.password)
    (.valueError "Current password is required to change your username.")
  require (isSelf → edit.role = none ∧ edit.isActive = none ∧ edit.deactivationReason = none)
    (.valueError "You cannot change your own role or active status.")

/-- The username of a request, stripped and free. -/
def usernameOf (fw : Framework) (users : List Users) (user : Users)
    (username : Option (Input String)) : Except Error (Option String) :=
  match username with
  | none => .ok none
  | some given => do
      let name ← demand given.value (.valueError "Username is required.")
      require (strip name ≠ "") (.valueError "Username is required.")
      require (IsFree fw users user Users.username (strip name))
        (.valueError "Username already exists.")
      return some (strip name)

/-- The email of a request, normalized and free. -/
def emailOf (fw : Framework) (users : List Users) (user : Users)
    (email : Option (Input String)) : Except Error (Option String) :=
  match email with
  | none => .ok none
  | some given => do
      let address ← demand given.value (.valueError "Invalid email format.")
      let address := fw.normalizeEmail (strip address)
      require (fw.isEmail address) (.valueError "Invalid email format.")
      require (IsFree fw users user Users.email address)
        (.valueError "Username or email already exists.")
      return some address

/-- The reason that goes with a change of the active state. -/
def reasonOf (isActive : Option Bool) (reason : Option (Input DeactivationReason)) :
    Except Error (Option DeactivationReason) :=
  match isActive, reason with
  | some false, none => .ok (some .suspended)
  | some false, some reason => (deactivationReasonOf reason).map some
  | some true, _ => .ok (some .none)
  | none, none => .ok none
  | none, some _ => .error (.valueError "'deactivation_reason' requires an active-status change.")

/-- The value of an optional field that must be of its type. -/
def typedField {α : Type} (field : Option (Input α)) (e : Error) : Except Error (Option α) :=
  match field with
  | none => .ok none
  | some (.given value) => .ok (some value)
  | some .other => .error e

/-- `update_user` under the lock of the target's row; `users` are the committed rows. -/
def updateUser (fw : Framework) (users : List Users) (edit : AdminEdit) (requestingUser : Nat)
    (user : Users) (challenges : Challenges) : Except Error UserChange := do
  -- keys the form does not have are refused before any of them is read
  require (edit.unknown = [])
    (.valueError ("Unsupported field(s): " ++ ", ".intercalate edit.unknown ++ "."))
  let isActive ← typedField edit.isActive (.valueError "'is_active' must be a boolean.")
  requireSelfEdit fw edit requestingUser user
  let role ← typedField edit.role
    (.valueError "Invalid role. Must be one of ['admin', 'staff'].")
  let username ← usernameOf fw users user edit.username
  let email ← emailOf fw users user edit.email
  let reason ← reasonOf isActive edit.deactivationReason
  -- demoting or deactivating the last active admin is refused before anything is saved
  let demoting := user.role = .admin ∧ role.getD user.role ≠ .admin
  let deactivating := user.role = .admin ∧ user.isActive ∧ isActive = some false
  require (demoting ∨ deactivating → OtherAdmin users user)
    (.valueError "Cannot remove the last active admin.")
  let leaving := user.isActive ∧ isActive = some false
  let obj := { user with
    username := username.getD user.username
    email := email.getD user.email
    role := role.getD user.role
    isActive := isActive.getD user.isActive
    deactivationReason := reason.getD user.deactivationReason
    firstName := edit.firstName.getD user.firstName
    lastName := edit.lastName.getD user.lastName
    phoneNumber := edit.phoneNumber.getD user.phoneNumber
    address := edit.address.getD user.address
    -- leaving ends the tokens of the account
    tokenVersion := if leaving then user.tokenVersion + 1 else user.tokenVersion }
  requireValid (fw.fullClean obj)
  -- every pending code of the account ends when its name, email or activity does
  return { save := { obj := obj, fields := none }
           challenges := if leaving ∨ email.isSome ∨ username.isSome then challenges.clear user.pk
             else challenges
           granted := true }

/-- `deactivate_user` under the lock of the target's row. -/
def deactivateUser (users : List Users) (requestingUser : Nat)
    (reason : Input DeactivationReason) (user : Users) (challenges : Challenges) :
    Except Error UserChange := do
  let reason ← deactivationReasonOf reason
  require (user.pk ≠ requestingUser) (.valueError "You cannot deactivate your own account.")
  require user.isActive (.valueError "User is already deactivated.")
  require (user.role = .admin → OtherAdmin users user)
    (.valueError "Cannot deactivate the last active admin.")
  let obj := { user with
    isActive := false
    tokenVersion := user.tokenVersion + 1
    deactivationReason := reason }
  return { save := { obj := obj, fields := none }
           challenges := challenges.clear user.pk
           granted := true }

/-! ## The user's own profile -/

/-- `PROFILE_EDIT_COOLDOWN_MINUTES`, in seconds. -/
def profileEditCooldown : Int := 5 * 60

/-- The fields of a profile request; absent keys are `none`. -/
structure ProfileEdit where
  blocked : List String
  unknown : List String
  username : Option (Input String)
  firstName : Option String
  lastName : Option String
  phoneNumber : Option (Option String)
  address : Option (Option String)
  email : Option (Input String)
  currentPassword : Option (Input String)

/-- The checks of `update_own_profile` before it locks the row; `signedIn` is the user as the
request was authenticated. -/
def checkProfileEdit (fw : Framework) (edit : ProfileEdit) (signedIn : Users) :
    Except Error (Option String) := do
  require (∀ given ∈ edit.email, ∃ email ∈ given.value,
      fw.casefold email = fw.casefold signedIn.email)
    (.valueError "Use /accounts/email-change/ to verify a new recovery email.")
  require (edit.blocked = [])
    (.valueError ("Cannot change the following field(s) via profile update: " ++
      ", ".intercalate edit.blocked ++ "."))
  require (edit.unknown = [])
    (.valueError ("Unsupported field(s): " ++ ", ".intercalate edit.unknown ++ "."))
  require (edit.username.isSome ∨ edit.firstName.isSome ∨ edit.lastName.isSome ∨
      edit.phoneNumber.isSome ∨ edit.address.isSome)
    (.valueError "At least one profile field is required.")
  let username ← typedField edit.username (.valueError "Username is required.")
  require (∀ name ∈ username, strip name ≠ "") (.valueError "Username is required.")
  return username.map strip

/-- The wait after a profile edit, with the minutes left in its message. -/
def requireProfileCooldown (now : Int) (user : Users) : Except Error Unit :=
  match user.lastProfileUpdateAt with
  | none => .ok ()
  | some last =>
      let elapsed := now - last
      require (profileEditCooldown ≤ elapsed)
        (.valueError ("Profile can only be updated once every 5 minutes. Try again in " ++
          toString ((profileEditCooldown - elapsed) / 60 + 1) ++ " minute(s)."))

/-- `update_own_profile` under the lock of the user's row. -/
def updateOwnProfile (fw : Framework) (now : Int) (users : List Users) (edit : ProfileEdit)
    (signedIn user : Users) (challenges : Challenges) : Except Error UserChange := do
  let username ← checkProfileEdit fw edit signedIn
  let renamed := username.any (fun name => name ≠ user.username)
  require (renamed → ∃ given ∈ edit.currentPassword, ∃ password ∈ given.value,
      fw.checkPassword password user.password)
    (.valueError "Current password is required to change your username.")
  requireProfileCooldown now user
  require (∀ name ∈ username, IsFree fw users user Users.username name)
    (.valueError "Username already exists.")
  let obj := { user with
    username := username.getD user.username
    firstName := edit.firstName.getD user.firstName
    lastName := edit.lastName.getD user.lastName
    phoneNumber := edit.phoneNumber.getD user.phoneNumber
    address := edit.address.getD user.address }
  require (obj ≠ user) (.valueError "No profile changes were provided.")
  let obj := { obj with lastProfileUpdateAt := some now }
  requireValid (fw.fullClean obj)
  return { save := { obj := obj, fields := none }
           challenges := if renamed then challenges.putReset user.pk none else challenges
           granted := true }

end Accounts
end RosarioDairy
