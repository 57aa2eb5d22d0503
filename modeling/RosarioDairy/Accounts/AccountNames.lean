import RosarioDairy.Accounts.UserServices
import RosarioDairy.Foundations.StepConditions
import RosarioDairy.Foundations.UniqueKeys

/-!
# AccountNames — usernames and emails, ignoring case

Registrations and edits of accounts, with what `full_clean` makes of the names on their way to the
table: it normalizes both, and compares them with those of the other rows.  The database adds a
constraint on the lower-cased email; the username has none but the exact one.
-/

namespace RosarioDairy
namespace Accounts

open Foundations

/-! ## Spelling -/

/-- The Unicode functions behind the names: `normalize_username`, which is NFKC, and the case tables of
the database. -/
structure Spelling where
  normalizeUsername : String → String
  upper : String → String
  lower : String → String
  normalize_idem : ∀ text, normalizeUsername (normalizeUsername text) = normalizeUsername text

namespace Spelling

/-- The framework on a database that compares without case through `UPPER`. -/
def framework (sp : Spelling) (fw : Framework) : Framework :=
  { fw with iexact := fun a b => sp.upper a = sp.upper b }

/-- `clean`, which `full_clean` runs between the fields and the uniqueness checks. -/
def clean (sp : Spelling) (fw : Framework) (user : Users) : Users :=
  { user with
    username := sp.normalizeUsername user.username
    email := fw.normalizeEmail user.email }

/-- Another row has the value in the column, compared through `f`. -/
def isTaken (users : List Users) (user : Users) (column : Users → String) (f : String → String) :
    Bool :=
  users.any fun row => row.pk ≠ user.pk && f (column row) = f (column user)

/-- The messages of `validate_unique` and `validate_constraints`; an email that fails the first is left
out of the second. -/
def uniqueMessages (sp : Spelling) (users : List Users) (user : Users) : List String :=
  (if isTaken users user Users.username id then
    ["A user with that username already exists."] else []) ++
  (if isTaken users user Users.email id then ["User with this Email already exists."]
  else if isTaken users user Users.email sp.lower then
    ["Constraint “accounts_users_email_ci_unique” is violated."]
  else [])

/-- The rest of `full_clean`, once the fields are checked, and what is saved. -/
def stored (sp : Spelling) (fw : Framework) (users : List Users) (user : Users) :
    Except Error Users := do
  let obj := sp.clean fw user
  requireValid (sp.uniqueMessages users obj)
  return obj

end Spelling

/-! ## Registration -/

/-- The arguments of `register_user`; names and email as text. -/
structure Registration where
  username : String
  password : Input String
  email : String
  role : String
  firstName : Option String
  lastName : Option String
  phoneNumber : Option String
  address : Option String

/-- One of `ROLE_CHOICES`. -/
def roleOf (role : String) : Option Role :=
  if role = "admin" then some .admin else if role = "staff" then some .staff else none

def requireShort (label value : String) : Except Error Unit :=
  require (value.length ≤ 50) (.valueError (label ++ " must be at most 50 characters."))

/-- `register_user`: the row to create. -/
def registerUser (sp : Spelling) (fw : Framework) (users : Table Users) (r : Registration)
    (salt : String) : Except Error Users := do
  let password ← demand r.password.value (.valueError "Password must be text.")
  require (8 ≤ password.length ∧ password.length ≤ 25)
    (.valueError "Password must be between 8 and 25 characters.")
  -- the names are cut to their columns before the row exists, the email is folded here
  let username := sp.normalizeUsername (strip r.username)
  let firstName := r.firstName.getD ""
  let lastName := r.lastName.getD ""
  requireShort "Username" username
  requireShort "First name" firstName
  requireShort "Last name" lastName
  let email := fw.normalizeEmail (strip r.email)
  -- an unknown role is refused further down, after the password is checked
  let user : Users :=
    { pk := users.next
      username := username
      email := email
      password := ""
      role := (roleOf r.role).getD .staff
      isActive := true
      deactivationReason := .none
      firstName := firstName
      lastName := lastName
      phoneNumber := r.phoneNumber
      address := r.address
      failedLoginAttempts := 0
      lockedUntil := none
      lastProfileUpdateAt := none
      lastPasswordChangeAt := none
      lastLogin := none
      tokenVersion := 0 }
  requireValid (fw.validatePassword password user)
  require ((roleOf r.role).isSome)
    (.valueError ("Value '" ++ r.role ++ "' is not a valid choice."))
  requireValid (fw.fullClean user)
  -- `save` checks the two unique columns, so a clash of usernames stops here
  let user ← sp.stored fw users.rows user
  require (IsFree (sp.framework fw) users.rows user Users.email email)
    (.valueError "Username or email already exists.")
  return { user with password := fw.makePassword password salt }

/-! ## Sequences of calls -/

structure Directory where
  now : Int
  users : Table Users
  challenges : Challenges

inductive DirectoryCall
  | tick (seconds : Nat)
  | register (r : Registration) (salt : String)
  | updateUser (pk : Nat) (edit : AdminEdit) (requestingUser : Nat)
  | updateOwnProfile (signedIn : Users) (edit : ProfileEdit)

namespace Directory

/-- Nobody has an account yet. -/
def empty (now : Int) : Directory :=
  { now := now
    users := .empty
    challenges :=
      { resets := fun _ => none
        emailChanges := fun _ => none } }

/-- The row a call is about, and its edit, stored as `full_clean` leaves it. -/
def edit (sp : Spelling) (fw : Framework) (S : Directory) (pk : Nat)
    (service : Users → Except Error UserChange) : Except Error Directory := do
  let row ← demand (S.users.find pk) (.doesNotExist "Users")
  let change ← service row
  let user ← sp.stored fw S.users.rows (change.save.onto row)
  return { S with
    users := S.users.put user
    challenges := change.challenges }

def call (sp : Spelling) (fw : Framework) (S : Directory) :
    DirectoryCall → Except Error Directory
  | .tick seconds => .ok { S with now := S.now + seconds }
  | .register r salt => do
      let user ← registerUser sp fw S.users r salt
      return { S with users := S.users.create fun pk => { user with pk := pk } }
  | .updateUser pk edit requestingUser =>
      S.edit sp fw pk fun row =>
        updateUser (sp.framework fw) S.users.rows edit requestingUser row S.challenges
  | .updateOwnProfile signedIn edit =>
      S.edit sp fw signedIn.pk fun row =>
        updateOwnProfile (sp.framework fw) S.now S.users.rows edit signedIn row S.challenges

/-- An error rolls the call back. -/
def step (sp : Spelling) (fw : Framework) (S : Directory) (call : DirectoryCall) : Directory :=
  settle S (S.call sp fw call)

def run (sp : Spelling) (fw : Framework) (S : Directory) (calls : List DirectoryCall) : Directory :=
  runAll (step sp fw) S calls

/-- Another account has the name, in another case. -/
def TakenInAnotherCase (sp : Spelling) (S : Directory) (user : Option Nat) (name : String) : Prop :=
  ∃ row ∈ S.users.rows, some row.pk ≠ user ∧ sp.upper row.username = sp.upper name ∧
    row.username ≠ name

/-- No other account has the name, whatever its case. -/
def FreeAsTyped (sp : Spelling) (S : Directory) (user : Nat) (name : String) : Prop :=
  ∀ row ∈ S.users.rows, row.pk ≠ user → sp.upper row.username ≠ sp.upper name

/-- An edit names a username that is free as typed, but not in its normal form. -/
def EditSlips (sp : Spelling) (S : Directory) (user : Nat) (username : Option (Input String)) :
    Prop :=
  ∃ text, username = some (.given text) ∧ S.FreeAsTyped sp user (strip text) ∧
    S.TakenInAnotherCase sp (some user) (sp.normalizeUsername (strip text))

/-- The call gets past the checks of the names with one that another account has in another case. -/
def SlipsThrough (sp : Spelling) (S : Directory) : DirectoryCall → Prop
  | .tick _ => False
  | .register r _ => S.TakenInAnotherCase sp none (sp.normalizeUsername (strip r.username))
  | .updateUser pk edit _ => S.EditSlips sp pk edit.username
  | .updateOwnProfile signedIn edit => S.EditSlips sp signedIn.pk edit.username

end Directory

/-! ## Names that are stored -/

section Stored

variable {sp : Spelling} {fw : Framework} {users : List Users} {user obj row : Users}

theorem isTaken_eq_false {column : Users → String} {f : String → String}
    (h : Spelling.isTaken users user column f = false) (hrow : row ∈ users)
    (hpk : row.pk ≠ user.pk) : f (column row) ≠ f (column user) := by
  intro hsame
  have hfree := List.any_eq_false.1 h row hrow
  simp [hpk, hsame] at hfree

/-- What is saved is normalized, and its names are not those of another row. -/
theorem stored_eq_ok (h : sp.stored fw users user = .ok obj) :
    obj = sp.clean fw user ∧ ∀ row ∈ users, row.pk ≠ user.pk →
      row.username ≠ obj.username ∧ sp.lower row.email ≠ sp.lower obj.email := by
  obtain ⟨_, hvalid, h⟩ := bind_eq_ok.1 h
  cases pure_eq_ok.1 h
  have hnone : sp.uniqueMessages users (sp.clean fw user) = [] := require_eq_ok.1 hvalid
  simp only [Spelling.uniqueMessages, List.append_eq_nil_iff, ite_eq_iff, List.cons_ne_nil, and_false,
    and_true, false_or, Bool.not_eq_true] at hnone
  obtain ⟨husername, -, hemail⟩ := hnone
  refine ⟨rfl, fun row hrow hpk => ⟨?_, ?_⟩⟩
  · exact isTaken_eq_false husername hrow hpk
  · exact isTaken_eq_false hemail hrow hpk

theorem registerUser_eq_ok {table : Table Users} {r : Registration} {salt : String}
    (h : registerUser sp fw table r salt = .ok obj) :
    obj.username = sp.normalizeUsername (strip r.username) ∧ ∀ row ∈ table.rows,
      row.username ≠ obj.username ∧ sp.lower row.email ≠ sp.lower obj.email := by
  obtain ⟨password, _, h⟩ := demand_bind_eq_ok.1 h
  obtain ⟨_, h⟩ := require_bind_eq_ok.1 h
  obtain ⟨_, _, h⟩ := bind_eq_ok.1 h
  obtain ⟨_, _, h⟩ := bind_eq_ok.1 h
  obtain ⟨_, _, h⟩ := bind_eq_ok.1 h
  obtain ⟨_, _, h⟩ := bind_eq_ok.1 h
  obtain ⟨_, h⟩ := require_bind_eq_ok.1 h
  obtain ⟨_, _, h⟩ := bind_eq_ok.1 h
  obtain ⟨user, hstored, h⟩ := bind_eq_ok.1 h
  obtain ⟨_, h⟩ := require_bind_eq_ok.1 h
  cases pure_eq_ok.1 h
  obtain ⟨rfl, hothers⟩ := stored_eq_ok hstored
  refine ⟨sp.normalize_idem _, fun row hrow => hothers row hrow ?_⟩
  exact Nat.ne_of_lt (table.below row hrow)

/-- The username an edit leaves: the old one, or the one typed, stripped and free. -/
def Renamed (fw : Framework) (users : List Users) (row : Users) (username : Option (Input String))
    (new : String) : Prop :=
  username = none ∧ new = row.username ∨
    ∃ text, username = some (.given text) ∧ new = strip text ∧
      IsFree fw users row Users.username (strip text)

theorem usernameOf_eq_ok {username : Option (Input String)} {name : Option String}
    (h : usernameOf fw users row username = .ok name) :
    Renamed fw users row username (name.getD row.username) := by
  cases username with
  | none =>
      cases h
      exact Or.inl ⟨rfl, rfl⟩
  | some given =>
      obtain ⟨text, hgiven, h⟩ := demand_bind_eq_ok.1 h
      obtain ⟨_, h⟩ := require_bind_eq_ok.1 h
      obtain ⟨hfree, h⟩ := require_bind_eq_ok.1 h
      cases pure_eq_ok.1 h
      cases given with
      | other => cases hgiven
      | given value =>
          cases hgiven
          exact Or.inr ⟨text, rfl, rfl, hfree⟩

theorem updateUser_renames {edit : AdminEdit} {requestingUser : Nat} {challenges : Challenges}
    {change : UserChange}
    (h : updateUser fw users edit requestingUser row challenges = .ok change) :
    Renamed fw users row edit.username (change.save.onto row).username := by
  obtain ⟨_, h⟩ := require_bind_eq_ok.1 h
  obtain ⟨isActive, _, h⟩ := bind_eq_ok.1 h
  obtain ⟨_, _, h⟩ := bind_eq_ok.1 h
  obtain ⟨role, _, h⟩ := bind_eq_ok.1 h
  obtain ⟨username, husername, h⟩ := bind_eq_ok.1 h
  obtain ⟨email, _, h⟩ := bind_eq_ok.1 h
  obtain ⟨reason, _, h⟩ := bind_eq_ok.1 h
  obtain ⟨_, h⟩ := require_bind_eq_ok.1 h
  obtain ⟨_, _, h⟩ := bind_eq_ok.1 h
  cases pure_eq_ok.1 h
  exact usernameOf_eq_ok husername

theorem checkProfileEdit_eq_ok {edit : ProfileEdit} {signedIn : Users} {name : Option String}
    (h : checkProfileEdit fw edit signedIn = .ok name) :
    edit.username = none ∧ name = none ∨
      ∃ text, edit.username = some (.given text) ∧ name = some (strip text) := by
  obtain ⟨_, h⟩ := require_bind_eq_ok.1 h
  obtain ⟨_, h⟩ := require_bind_eq_ok.1 h
  obtain ⟨_, h⟩ := require_bind_eq_ok.1 h
  obtain ⟨_, h⟩ := require_bind_eq_ok.1 h
  obtain ⟨username, husername, h⟩ := bind_eq_ok.1 h
  obtain ⟨_, h⟩ := require_bind_eq_ok.1 h
  cases pure_eq_ok.1 h
  cases hedit : edit.username with
  | none =>
      rw [hedit] at husername
      cases husername
      exact Or.inl ⟨rfl, rfl⟩
  | some given =>
      rw [hedit] at husername
      cases given with
      | other => cases husername
      | given text =>
          cases husername
          exact Or.inr ⟨text, rfl, rfl⟩

theorem updateOwnProfile_renames {now : Int} {edit : ProfileEdit} {signedIn : Users}
    {challenges : Challenges} {change : UserChange}
    (h : updateOwnProfile fw now users edit signedIn row challenges = .ok change) :
    Renamed fw users row edit.username (change.save.onto row).username := by
  obtain ⟨username, husername, h⟩ := bind_eq_ok.1 h
  obtain ⟨_, h⟩ := require_bind_eq_ok.1 h
  obtain ⟨_, _, h⟩ := bind_eq_ok.1 h
  obtain ⟨hfree, h⟩ := require_bind_eq_ok.1 h
  obtain ⟨_, h⟩ := require_bind_eq_ok.1 h
  obtain ⟨_, _, h⟩ := bind_eq_ok.1 h
  cases pure_eq_ok.1 h
  rcases checkProfileEdit_eq_ok husername with ⟨hnone, rfl⟩ | ⟨text, hsome, rfl⟩
  · exact Or.inl ⟨hnone, rfl⟩
  · exact Or.inr ⟨text, hsome, rfl, hfree (strip text) rfl⟩

end Stored

/-! ## Every sequence of calls -/

/-- No two accounts have emails that the database takes for the same. -/
def EmailsUnique (sp : Spelling) (users : Table Users) : Prop :=
  users.UniqueBy fun user => sp.lower user.email

/-- No two accounts have usernames that are equal ignoring case. -/
def UsernamesUnique (sp : Spelling) (users : Table Users) : Prop :=
  users.UniqueBy fun user => sp.upper user.username

/-- Usernames are stored in their normal form, and emails are unique. -/
structure NamesStored (sp : Spelling) (users : Table Users) : Prop where
  normal : ∀ user ∈ users.rows, sp.normalizeUsername user.username = user.username
  emails : EmailsUnique sp users

section Calls

variable {sp : Spelling} {fw : Framework} {S T : Directory}

/-- A registration creates a row, with names that no other row has. -/
theorem register_eq_ok {r : Registration} {salt : String}
    (h : S.call sp fw (.register r salt) = .ok T) :
    ∃ user, registerUser sp fw S.users r salt = .ok user ∧
      T.users = S.users.create fun pk => { user with pk := pk } := by
  obtain ⟨user, huser, h⟩ := bind_eq_ok.1 h
  cases pure_eq_ok.1 h
  exact ⟨user, huser, rfl⟩

/-- An edit overwrites the row it has read. -/
theorem edit_eq_ok {pk : Nat} {service : Users → Except Error UserChange}
    (h : S.edit sp fw pk service = .ok T) :
    ∃ row change user, row ∈ S.users.rows ∧ row.pk = pk ∧ service row = .ok change ∧
      sp.stored fw S.users.rows (change.save.onto row) = .ok user ∧ user.pk = pk ∧
        T.users = S.users.put user := by
  obtain ⟨row, hrow, h⟩ := demand_bind_eq_ok.1 h
  obtain ⟨change, hchange, h⟩ := bind_eq_ok.1 h
  obtain ⟨user, huser, h⟩ := bind_eq_ok.1 h
  cases pure_eq_ok.1 h
  obtain ⟨hmem, rfl⟩ := Table.find_eq_some.1 hrow
  refine ⟨row, change, user, hmem, rfl, hchange, huser, ?_, rfl⟩
  rw [(stored_eq_ok huser).1]
  exact change.save.onto_pk row

theorem register_names (h : NamesStored sp S.users) {r : Registration} {salt : String}
    (hcall : S.call sp fw (.register r salt) = .ok T) : NamesStored sp T.users := by
  obtain ⟨user, huser, hT⟩ := register_eq_ok hcall
  obtain ⟨hname, hothers⟩ := registerUser_eq_ok huser
  rw [hT]
  constructor
  · intro row hrow
    rcases List.mem_append.1 hrow with hold | hnew
    · exact h.normal row hold
    · cases List.mem_singleton.1 hnew
      simp only [hname]
      exact sp.normalize_idem _
  · exact h.emails.create fun row hrow => (hothers row hrow).2

theorem edit_names (h : NamesStored sp S.users) {pk : Nat}
    {service : Users → Except Error UserChange} (hcall : S.edit sp fw pk service = .ok T) :
    NamesStored sp T.users := by
  obtain ⟨row, change, user, hrow, rfl, -, hstored, hpk, hT⟩ := edit_eq_ok hcall
  obtain ⟨hclean, hothers⟩ := stored_eq_ok hstored
  have honto : (change.save.onto row).pk = row.pk := change.save.onto_pk row
  rw [honto] at hothers
  rw [hT]
  constructor
  · intro other hother
    rcases Table.mem_put.1 hother with ⟨hold, -⟩ | ⟨rfl, -⟩
    · exact h.normal other hold
    · rw [hclean]
      exact sp.normalize_idem _
  · refine h.emails.put fun other hother hne => (hothers other hother ?_).2
    rw [← hpk]
    exact hne

theorem step_names (h : NamesStored sp S.users) (call : DirectoryCall) :
    NamesStored sp (S.step sp fw call).users := by
  refine settle_preserves (P := fun S : Directory => NamesStored sp S.users) ?_ h
  intro T hT
  cases call with
  | tick seconds =>
      cases hT
      exact h
  | register r salt => exact register_names h hT
  | updateUser pk edit requestingUser => exact edit_names h hT
  | updateOwnProfile signedIn edit => exact edit_names h hT

/-- An edit that does not slip through keeps usernames apart. -/
theorem edit_usernames (h : NamesStored sp S.users) (hunique : UsernamesUnique sp S.users) {pk : Nat}
    {username : Option (Input String)} {service : Users → Except Error UserChange}
    (hservice : ∀ row change, service row = .ok change →
      Renamed (sp.framework fw) S.users.rows row username (change.save.onto row).username)
    (hslips : ¬ S.EditSlips sp pk username) (hcall : S.edit sp fw pk service = .ok T) :
    UsernamesUnique sp T.users := by
  obtain ⟨row, change, user, hrow, rfl, hchange, hstored, hpk, hT⟩ := edit_eq_ok hcall
  obtain ⟨hclean, hothers⟩ := stored_eq_ok hstored
  have honto : (change.save.onto row).pk = row.pk := change.save.onto_pk row
  rw [honto] at hothers
  have hname : user.username = sp.normalizeUsername (change.save.onto row).username := by
    rw [hclean]
    rfl
  rw [hT]
  refine hunique.put fun other hother hne hsame => ?_
  have hne : other.pk ≠ row.pk := by
    rw [← hpk]
    exact hne
  -- the service kept the username, or typed one that no other row shows
  rcases hservice row change hchange with ⟨-, hkept⟩ | ⟨text, htext, htyped, hfree⟩
  · -- the row keeps its username, which is normal
    rw [hkept, h.normal row hrow] at hname
    simp only [hname] at hsame
    exact hne (hunique other hother row hrow hsame)
  · rw [htyped] at hname
    -- the typed name clashes only in its folded spelling, which is what `EditSlips` says
    refine hslips ⟨text, htext, ?_, other, hother, ?_, ?_, ?_⟩
    · intro taken htaken htakenne hupper
      rcases hfree taken htaken with hself | hother'
      · exact htakenne hself
      · exact hother' (decide_eq_true hupper)
    · exact fun hEq => hne (Option.some.inj hEq)
    · rw [← hname]
      exact hsame
    · rw [← hname]
      exact (hothers other hother hne).1

theorem step_usernames (h : NamesStored sp S.users) (hunique : UsernamesUnique sp S.users)
    {call : DirectoryCall} (hslips : ¬ S.SlipsThrough sp call) :
    UsernamesUnique sp (S.step sp fw call).users := by
  refine settle_preserves (P := fun S : Directory => UsernamesUnique sp S.users) ?_ hunique
  intro T hT
  cases call with
  | tick seconds =>
      cases hT
      exact hunique
  | register r salt =>
      obtain ⟨user, huser, hT⟩ := register_eq_ok hT
      obtain ⟨hname, hothers⟩ := registerUser_eq_ok huser
      rw [hT]
      refine hunique.create fun row hrow hsame => ?_
      refine hslips ⟨row, hrow, ?_, ?_, ?_⟩
      · intro hEq
        cases hEq
      · rw [← hname]
        exact hsame
      · rw [← hname]
        exact (hothers row hrow).1
  | updateUser pk edit requestingUser =>
      exact edit_usernames h hunique (fun _ _ => updateUser_renames) hslips hT
  | updateOwnProfile signedIn edit =>
      exact edit_usernames h hunique (fun _ _ => updateOwnProfile_renames) hslips hT

end Calls

/-- From an empty table, emails stay unique in every sequence of calls, and usernames in every one
without a call that slips through. -/
theorem account_names_unique (sp : Spelling) (fw : Framework) (now : Int)
    (calls : List DirectoryCall) :
    EmailsUnique sp ((Directory.empty now).run sp fw calls).users ∧
      (EachStep (Directory.step sp fw) (fun S call => ¬ S.SlipsThrough sp call)
          (Directory.empty now) calls →
        UsernamesUnique sp ((Directory.empty now).run sp fw calls).users) := by
  have hempty : NamesStored sp (Directory.empty now).users :=
    { normal := fun _ h => by cases h
      emails := Table.uniqueBy_empty }
  constructor
  · exact (runAll_preserves (P := fun S : Directory => NamesStored sp S.users)
      (fun S call h => step_names h call) calls hempty).emails
  · intro hslips
    refine (EachStep.preserves
      (I := fun S : Directory => NamesStored sp S.users ∧ UsernamesUnique sp S.users) ?_
      ⟨hempty, Table.uniqueBy_empty⟩ hslips).2
    rintro S call ⟨hnames, hunique⟩ hcall
    exact ⟨step_names hnames call, step_usernames hnames hunique hcall⟩

/-! ## Two registrations -/

/-- ASCII names. -/
def Spelling.ascii : Spelling :=
  { normalizeUsername := id
    upper := fun text => String.ofList (text.toList.map Char.toUpper)
    lower := fun text => String.ofList (text.toList.map Char.toLower)
    normalize_idem := fun _ => rfl }

def registration (username email : String) : DirectoryCall :=
  .register
    { username := username
      password := .given "long enough"
      email := email
      role := "staff"
      firstName := none
      lastName := none
      phoneNumber := none
      address := none } ""

theorem account_names_unique_two :
    UsernamesUnique .ascii ((Directory.empty 0).run .ascii .plain
      [registration "alice" "alice@example.com", registration "bob" "bob@example.com"]).users := by
  refine (account_names_unique .ascii .plain 0 _).2 ⟨?_, ?_, trivial⟩
  · rintro ⟨row, hrow, -⟩
    cases hrow
  · rintro ⟨row, hrow, -, hsame, -⟩
    have hnames : ((Directory.empty 0).step .ascii .plain
        (registration "alice" "alice@example.com")).users.rows.map Users.username = ["alice"] := by
      rfl
    have hname : row.username = "alice" := by
      have hmem := List.mem_map_of_mem (f := Users.username) hrow
      rw [hnames] at hmem
      exact List.mem_singleton.1 hmem
    rw [hname] at hsame
    exact absurd hsame (by decide)

/-- A registration does not look for its username in another case. -/
theorem register_another_case :
    ¬ ∀ (sp : Spelling) (fw : Framework) (now : Int) (calls : List DirectoryCall),
      UsernamesUnique sp ((Directory.empty now).run sp fw calls).users ∧
        EmailsUnique sp ((Directory.empty now).run sp fw calls).users := by
  intro h
  obtain ⟨hunique, -⟩ := h .ascii .plain 0
    [registration "alice" "alice@example.com", registration "Alice" "other@example.com"]
  have hnames : ((Directory.empty 0).run .ascii .plain
      [registration "alice" "alice@example.com",
        registration "Alice" "other@example.com"]).users.rows.map
        (fun user => (user.pk, user.username)) = [(1, "alice"), (2, "Alice")] := by
    rfl
  obtain ⟨alice, halice, hfirst⟩ := List.mem_map.1 (hnames ▸ List.mem_cons_self)
  obtain ⟨other, hother, hsecond⟩ :=
    List.mem_map.1 (hnames ▸ List.mem_cons_of_mem _ List.mem_cons_self)
  simp only [Prod.mk.injEq] at hfirst hsecond
  have hpk := hunique alice halice other hother ?_
  · have hclash : (1 : Nat) = 2 := hfirst.1.symm.trans (hpk.trans hsecond.1)
    cases hclash
  · simp only [hfirst.2, hsecond.2]
    decide

end Accounts
end RosarioDairy
