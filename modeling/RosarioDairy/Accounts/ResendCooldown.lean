import RosarioDairy.Accounts.LockoutRuns
import RosarioDairy.Accounts.ResetCodeRuns
import RosarioDairy.Foundations.StepConditions

/-!
# ResendCooldown — how soon another code is mailed

The time of the last mail stands in the challenge itself.  As long as no submission ends a challenge
within the cooldown of its mail, two codes of a kind are mailed a cooldown apart.
-/

namespace RosarioDairy
namespace Accounts

open Foundations

/-! ## Requests and submissions of one user -/

/-- A code resets a password or confirms a new email. -/
inductive CodeKind
  | passwordReset
  | emailChange
  deriving DecidableEq, Repr

/-- A request draws its code, which its mail delivers or not. -/
inductive CodeCall
  | requestPasswordReset (username email otp : String) (delivered : Bool)
  | resetPassword (username email otp newPassword salt : String)
  | requestEmailChange (password email : Input String) (otp : String) (delivered : Bool)
  | confirmEmailChange (password email : Input String) (otp : Option String)

namespace CodeCall

def op : CodeCall → UserOp
  | .requestPasswordReset username email otp _ => .requestPasswordReset username email otp
  | .resetPassword username email otp newPassword salt =>
      .resetPassword username email otp newPassword salt
  | .requestEmailChange password email otp _ => .requestEmailChange password email otp
  | .confirmEmailChange password email otp => .confirmEmailChange password email otp

/-- The kind of code a call requests, and whether its mail is delivered. -/
def request : CodeCall → Option (CodeKind × Bool)
  | .requestPasswordReset _ _ _ delivered => some (.passwordReset, delivered)
  | .requestEmailChange _ _ _ delivered => some (.emailChange, delivered)
  | _ => none

end CodeCall

/-- Delete the challenge of a kind. -/
def Challenges.drop (challenges : Challenges) (user : Nat) : CodeKind → Challenges
  | .passwordReset => challenges.putReset user none
  | .emailChange => challenges.putEmailChange user none

/-- `last_sent_at` of the challenge of a kind, if the user has one. -/
def Challenges.lastSentAt (challenges : Challenges) (user : Nat) : CodeKind → Option Int
  | .passwordReset => (challenges.resets user).map PasswordResetChallenge.lastSentAt
  | .emailChange => (challenges.emailChanges user).map EmailChangeChallenge.lastSentAt

/-- The time between two codes of a kind. -/
def AccountSettings.cooldown (env : AccountSettings) : CodeKind → Int
  | .passwordReset => env.resets.cooldown
  | .emailChange => 60

/-- A user at work with codes: the row, the challenges, and the codes mailed so far, each with the
instant of its request. -/
structure Correspondence where
  now : Int
  user : Users
  challenges : Challenges
  mailed : List (CodeKind × Int)

/-- A call finds the other accounts in any state. -/
inductive CorrespondenceAction
  | tick (seconds : Nat)
  | call (users : List Users) (call : CodeCall)

namespace Correspondence

def sent (S : Correspondence) (kind : CodeKind) : Option Int :=
  S.challenges.lastSentAt S.user.pk kind

/-- The mail of a granted request; a failed mail deletes the challenge the request has stored. -/
def deliver (S : Correspondence) : Option (CodeKind × Bool) → Correspondence
  | some (kind, true) => { S with mailed := S.mailed ++ [(kind, S.now)] }
  | some (kind, false) => { S with challenges := S.challenges.drop S.user.pk kind }
  | none => S

/-- A call from beginning to end; an error rolls its transaction back. -/
def call (env : AccountSettings) (S : Correspondence) (users : List Users) (call : CodeCall) :
    Correspondence :=
  match call.op.run env S.now users Table.empty S.user S.challenges with
  | .error _ => S
  | .ok change =>
      let T := { S with
        user := change.save.onto S.user
        challenges := change.challenges }
      if change.granted then T.deliver call.request else T

def step (env : AccountSettings) (S : Correspondence) : CorrespondenceAction → Correspondence
  | .tick seconds => { S with now := S.now + seconds }
  | .call users call => S.call env users call

def run (env : AccountSettings) (S : Correspondence) (actions : List CorrespondenceAction) :
    Correspondence :=
  runAll (step env) S actions

end Correspondence

/-- Two mailed codes of a kind are a cooldown apart. -/
def CodesSpaced (env : AccountSettings) (mailed : List (CodeKind × Int)) : Prop :=
  mailed.Pairwise fun earlier later =>
    earlier.1 = later.1 → earlier.2 + env.cooldown earlier.1 ≤ later.2

/-! ## Submissions that end a challenge -/

namespace Correspondence

/-- The call is a submission that ends the challenge of the kind: it comes too late, it is the last
wrong one, or it is right and accepted, which ends the challenges of both kinds. -/
def Ends (env : AccountSettings) (S : Correspondence) (users : List Users) (kind : CodeKind) :
    CodeCall → Prop
  | .resetPassword username email otp newPassword _ =>
      S.user.isNamed env.framework username email = true ∧
        ∃ c, S.challenges.resets S.user.pk = some c ∧
          if c.expiresAt ≤ S.now then kind = .passwordReset
          else if c.otpDigest ≠
              env.framework.otpDigest S.user.username (env.framework.casefold S.user.email) otp then
            kind = .passwordReset ∧ env.resets.maxAttempts ≤ c.failedAttempts + 1
          else env.framework.validatePassword newPassword S.user = []
  | .confirmEmailChange password email otp =>
      ∃ new, emailCredentials env.framework users password email S.user = .ok new ∧
        ∃ c, S.challenges.emailChanges S.user.pk = some c ∧
          if c.expiresAt ≤ S.now then kind = .emailChange
          else if env.framework.casefold c.email ≠ env.framework.casefold new ∨
              otp.map (emailOtpDigest env.framework S.user new) ≠ some c.otpDigest then
            kind = .emailChange ∧ 5 ≤ c.failedAttempts + 1
          else True
  | _ => False

/-- The cooldown of the last mail of the kind is over, as far as the challenge shows. -/
def Rested (env : AccountSettings) (S : Correspondence) (kind : CodeKind) : Prop :=
  ∀ time, S.sent kind = some time → time + env.cooldown kind ≤ S.now

/-- The action ends no challenge within the cooldown of its mail. -/
def Patient (env : AccountSettings) (S : Correspondence) : CorrespondenceAction → Prop
  | .tick _ => True
  | .call users call => ∀ kind, S.Ends env users kind call → S.Rested env kind

/-- Every action of the run is patient in the state it meets. -/
def PatientRun (env : AccountSettings) (S : Correspondence) (actions : List CorrespondenceAction) :
    Prop :=
  EachStep (step env) (Patient env) S actions

end Correspondence

/-! ## One call -/

section LastSent

variable (challenges : Challenges) (user : Nat)

@[simp] theorem lastSentAt_putReset (challenge : Option PasswordResetChallenge) :
    (challenges.putReset user challenge).lastSentAt user .passwordReset =
      challenge.map PasswordResetChallenge.lastSentAt := by
  simp [Challenges.lastSentAt, Challenges.putReset]

@[simp] theorem lastSentAt_putEmailChange (challenge : Option EmailChangeChallenge) :
    (challenges.putEmailChange user challenge).lastSentAt user .emailChange =
      challenge.map EmailChangeChallenge.lastSentAt := by
  simp [Challenges.lastSentAt, Challenges.putEmailChange]

theorem lastSentAt_drop_of_ne {kind other : CodeKind} (h : other ≠ kind) :
    (challenges.drop user kind).lastSentAt user other = challenges.lastSentAt user other := by
  cases kind with
  | passwordReset =>
      cases other with
      | passwordReset => exact absurd rfl h
      | emailChange => rfl
  | emailChange =>
      cases other with
      | passwordReset => rfl
      | emailChange => exact absurd rfl h

end LastSent

/-- What a call that is not rolled back does to the challenges: a granted request finds its kind rested
and stores a challenge of its own instant; otherwise the last mail of a kind stays on record, unless
the kind is rested. -/
structure KeepsRecord (env : AccountSettings) (S : Correspondence)
    (request : Option (CodeKind × Bool)) (change : UserChange) : Prop where
  granted : change.granted = true → ∀ kind delivered, request = some (kind, delivered) →
    S.Rested env kind ∧ change.challenges.lastSentAt S.user.pk kind = some S.now
  kept : ∀ kind, change.challenges.lastSentAt S.user.pk kind = S.sent kind ∨ S.Rested env kind

section Calls

variable {env : AccountSettings} {S : Correspondence} {users : List Users} {change : UserChange}

theorem requestPasswordReset_recorded (username email otp : String) (delivered : Bool) :
    KeepsRecord env S (some (.passwordReset, delivered))
      (requestPasswordReset env.framework env.resets S.now username email otp S.user
        S.challenges) := by
  simp only [requestPasswordReset]
  split
  · exact
      { granted := fun h => by cases h
        kept := fun _ => Or.inl rfl }
  · rename_i hfree
    have hrested : S.Rested env .passwordReset := by
      intro time htime
      obtain ⟨c, hc, rfl⟩ := Option.map_eq_some_iff.1 htime
      simp only [hc, Option.any_some, Bool.or_eq_true, decide_eq_true_eq, not_or] at hfree
      exact Int.not_lt.1 hfree.2
    refine
      { granted := ?_
        kept := ?_ }
    · rintro _ kind delivered' hkind
      cases hkind
      exact ⟨hrested, by simp [UserChange.keep]⟩
    · intro kind
      cases kind with
      | passwordReset => exact Or.inr hrested
      | emailChange => exact Or.inl rfl

theorem requestEmailChange_recorded {password email : Input String} {otp : String}
    (delivered : Bool)
    (h : requestEmailChange env.framework S.now users password email otp S.user S.challenges =
      .ok change) :
    KeepsRecord env S (some (.emailChange, delivered)) change := by
  unfold requestEmailChange at h
  obtain ⟨new, _, h⟩ := bind_eq_ok.1 h
  obtain ⟨hfree, h⟩ := require_bind_eq_ok.1 h
  cases pure_eq_ok.1 h
  have hrested : S.Rested env .emailChange := by
    intro time htime
    obtain ⟨c, hc, rfl⟩ := Option.map_eq_some_iff.1 htime
    have hfree : ∀ c ∈ S.challenges.emailChanges S.user.pk, c.lastSentAt + 60 ≤ S.now := by
      simpa using hfree
    exact hfree c hc
  refine
    { granted := ?_
      kept := ?_ }
  · rintro _ kind delivered' hkind
    cases hkind
    exact ⟨hrested, by simp [UserChange.keep]⟩
  · intro kind
    cases kind with
    | passwordReset => exact Or.inl rfl
    | emailChange => exact Or.inr hrested

theorem resetPassword_recorded {username email otp newPassword salt : String}
    (hpatient : ∀ kind, S.Ends env users kind (.resetPassword username email otp newPassword salt) →
      S.Rested env kind)
    (h : resetPasswordWithOtp env.framework env.resets S.now username email otp newPassword salt
      S.user S.challenges = .ok change) :
    KeepsRecord env S none change := by
  refine
    { granted := fun _ _ _ hnone => by cases hnone
      kept := ?_ }
  unfold resetPasswordWithOtp at h
  split at h
  · cases h
    exact fun _ => Or.inl rfl
  · rename_i hnamed
    have hnamed : S.user.isNamed env.framework username email = true := by simpa using hnamed
    split at h
    · cases h
      exact fun _ => Or.inl rfl
    · rename_i c hc
      split at h
      · rename_i hlate
        cases h
        intro kind
        cases kind with
        | passwordReset =>
            refine Or.inr (hpatient .passwordReset ⟨hnamed, c, hc, ?_⟩)
            rw [if_pos hlate]
        | emailChange => exact Or.inl rfl
      · rename_i hearly
        split at h
        · rename_i hwrong
          cases h
          intro kind
          cases kind with
          | passwordReset =>
              by_cases hlast : env.resets.maxAttempts ≤ c.failedAttempts + 1
              · refine Or.inr (hpatient .passwordReset ⟨hnamed, c, hc, ?_⟩)
                rw [if_neg hearly, if_pos hwrong]
                exact ⟨rfl, hlast⟩
              · left
                simp [UserChange.keep, PasswordResetChallenge.failed, hlast, Correspondence.sent,
                  Challenges.lastSentAt, hc, Challenges.putReset]
          | emailChange => exact Or.inl rfl
        · rename_i hright
          -- both kinds end with the reset
          have hvalid : env.framework.validatePassword newPassword S.user = [] := by
            unfold forgotPassword at h
            obtain ⟨new, hnew, h⟩ := demand_bind_eq_ok.1 h
            cases hnew
            obtain ⟨_, hvalid, _⟩ := bind_eq_ok.1 h
            exact require_eq_ok.1 hvalid
          intro kind
          refine Or.inr (hpatient kind ⟨hnamed, c, hc, ?_⟩)
          rw [if_neg hearly, if_neg hright]
          exact hvalid

theorem confirmEmailChange_recorded {password email : Input String} {otp : Option String}
    (hpatient : ∀ kind, S.Ends env users kind (.confirmEmailChange password email otp) →
      S.Rested env kind)
    (h : confirmEmailChange env.framework S.now users password email otp S.user S.challenges =
      .ok change) :
    KeepsRecord env S none change := by
  refine
    { granted := fun _ _ _ hnone => by cases hnone
      kept := ?_ }
  unfold confirmEmailChange at h
  obtain ⟨new, hnew, h⟩ := bind_eq_ok.1 h
  split at h
  · cases pure_eq_ok.1 h
    exact fun _ => Or.inl rfl
  · rename_i c hc
    split at h
    · rename_i hlate
      cases pure_eq_ok.1 h
      intro kind
      cases kind with
      | passwordReset => exact Or.inl rfl
      | emailChange =>
          refine Or.inr (hpatient .emailChange ⟨new, hnew, c, hc, ?_⟩)
          rw [if_pos hlate]
    · rename_i hearly
      split at h
      · rename_i hwrong
        cases pure_eq_ok.1 h
        intro kind
        cases kind with
        | passwordReset => exact Or.inl rfl
        | emailChange =>
            by_cases hlast : 5 ≤ c.failedAttempts + 1
            · refine Or.inr (hpatient .emailChange ⟨new, hnew, c, hc, ?_⟩)
              rw [if_neg hearly, if_pos hwrong]
              exact ⟨rfl, hlast⟩
            · left
              simp [UserChange.keep, EmailChangeChallenge.failed, hlast, Correspondence.sent,
                Challenges.lastSentAt, hc, Challenges.putEmailChange]
      · rename_i hright
        -- both kinds end with the new email
        intro kind
        refine Or.inr (hpatient kind ⟨new, hnew, c, hc, ?_⟩)
        rw [if_neg hearly, if_neg hright]
        trivial

/-- What a patient call does to the challenges. -/
theorem call_recorded {call : CodeCall} (hpatient : S.Patient env (.call users call))
    (h : call.op.run env S.now users Table.empty S.user S.challenges = .ok change) :
    KeepsRecord env S call.request change := by
  cases call with
  | requestPasswordReset username email otp delivered =>
      cases h
      exact requestPasswordReset_recorded username email otp delivered
  | resetPassword username email otp newPassword salt => exact resetPassword_recorded hpatient h
  | requestEmailChange password email otp delivered => exact requestEmailChange_recorded delivered h
  | confirmEmailChange password email otp => exact confirmEmailChange_recorded hpatient h

end Calls

/-! ## Every run -/

/-- The codes mailed so far are spaced, and a kind whose cooldown is not over has the challenge of its
last mail. -/
structure Cooled (env : AccountSettings) (S : Correspondence) : Prop where
  spaced : CodesSpaced env S.mailed
  standing : ∀ kind time, (kind, time) ∈ S.mailed → S.now < time + env.cooldown kind →
    S.sent kind = some time

section Runs

variable {env : AccountSettings} {S : Correspondence}

/-- A kind that is rested has no mail within its cooldown. -/
theorem Cooled.mail_le (h : Cooled env S) {kind : CodeKind} (hrested : S.Rested env kind)
    {time : Int} (hmail : (kind, time) ∈ S.mailed) : time + env.cooldown kind ≤ S.now := by
  by_contra hlate
  have hsent : S.sent kind = some time := h.standing kind time hmail (Int.not_le.1 hlate)
  exact hlate (hrested time hsent)

/-- Nothing was mailed, and the last mail of a kind stays on record unless the kind is rested. -/
theorem Cooled.quiet (h : Cooled env S) {T : Correspondence} (hmailed : T.mailed = S.mailed)
    (hnow : T.now = S.now) (hkept : ∀ kind, T.sent kind = S.sent kind ∨ S.Rested env kind) :
    Cooled env T := by
  constructor
  · rw [hmailed]
    exact h.spaced
  · intro kind time hmail hearly
    rw [hmailed] at hmail
    rw [hnow] at hearly
    rcases hkept kind with hsame | hrested
    · exact hsame.trans (h.standing kind time hmail hearly)
    · exact absurd (h.mail_le hrested hmail) (Int.not_le.2 hearly)

/-- A code was mailed of a kind that is rested, and its challenge stored. -/
theorem Cooled.mail (h : Cooled env S) {T : Correspondence} {kind : CodeKind}
    (hrested : S.Rested env kind) (hmailed : T.mailed = S.mailed ++ [(kind, S.now)])
    (hnow : T.now = S.now) (hsent : T.sent kind = some S.now)
    (hkept : ∀ kind, T.sent kind = S.sent kind ∨ S.Rested env kind) : Cooled env T := by
  constructor
  · unfold CodesSpaced
    rw [hmailed, List.pairwise_append]
    refine ⟨h.spaced, List.pairwise_singleton _ _, ?_⟩
    rintro ⟨earlier, time⟩ hearlier later hlater hkind
    cases List.mem_singleton.1 hlater
    cases hkind
    exact h.mail_le hrested hearlier
  · intro kind' time hmail hearly
    rw [hmailed] at hmail
    rw [hnow] at hearly
    rcases List.mem_append.1 hmail with hold | hnew
    · rcases hkept kind' with hsame | hrested'
      · exact hsame.trans (h.standing kind' time hold hearly)
      · exact absurd (h.mail_le hrested' hold) (Int.not_le.2 hearly)
    · cases List.mem_singleton.1 hnew
      exact hsent

theorem call_cooled {users : List Users} {call : CodeCall} (h : Cooled env S)
    (hpatient : S.Patient env (.call users call)) : Cooled env (S.call env users call) := by
  unfold Correspondence.call
  split
  · exact h
  · rename_i change hchange
    have hrecord := call_recorded hpatient hchange
    have hpk : (change.save.onto S.user).pk = S.user.pk := change.save.onto_pk S.user
    -- a code kind keeps the time of its last mail, or its cooldown is over
    have hkept : ∀ kind, change.challenges.lastSentAt (change.save.onto S.user).pk kind =
        S.sent kind ∨ S.Rested env kind := by
      rw [hpk]
      exact hrecord.kept
    split
    · rename_i hgranted
      cases hrequest : call.request with
      -- no mail was asked for: whatever stands, stands with its old time
      | none => exact h.quiet rfl rfl hkept
      | some request =>
          obtain ⟨kind, delivered⟩ := request
          obtain ⟨hrested, hsent⟩ := hrecord.granted hgranted kind delivered hrequest
          cases delivered with
          | true =>
              refine h.mail hrested rfl rfl ?_ hkept
              rw [← hpk] at hsent
              exact hsent
          | false =>
              -- mailing failed: the service drops the challenge, and with it the time of the mail
              refine h.quiet rfl rfl fun other => ?_
              by_cases hother : other = kind
              · exact Or.inr (hother ▸ hrested)
              · -- the other kind is not dropped
                have hdrop := lastSentAt_drop_of_ne change.challenges
                  (change.save.onto S.user).pk hother
                exact (hkept other).imp (fun hsame => hdrop.trans hsame) id
    · exact h.quiet rfl rfl hkept

theorem step_cooled {action : CorrespondenceAction} (h : Cooled env S)
    (hpatient : S.Patient env action) : Cooled env (S.step env action) := by
  cases action with
  | tick seconds =>
      refine
        { spaced := h.spaced
          standing := fun kind time hmail hearly => h.standing kind time hmail ?_ }
      have hnow : S.now ≤ S.now + seconds := by omega
      exact lt_of_le_of_lt hnow hearly
  | call users call => exact call_cooled h hpatient

theorem run_cooled (h : Cooled env S) {actions : List CorrespondenceAction}
    (hpatient : S.PatientRun env actions) : Cooled env (S.run env actions) :=
  EachStep.preserves (fun _ _ => step_cooled) h hpatient

end Runs

/-- In a run that ends no challenge within the cooldown of its mail, two codes of a kind are mailed a
cooldown apart. -/
theorem codes_spaced (env : AccountSettings) (now : Int) (user : Users) (challenges : Challenges)
    (actions : List CorrespondenceAction)
    (hpatient : (Correspondence.mk now user challenges []).PatientRun env actions) :
    CodesSpaced env ((Correspondence.mk now user challenges []).run env actions).mailed := by
  refine (run_cooled ?_ hpatient).spaced
  exact
    { spaced := List.Pairwise.nil
      standing := fun _ _ h => by cases h }

/-! ## Two codes in a minute -/

/-- A code is requested and mailed, redeemed a minute later, and another is requested. -/
def patientCorrespondence : List CorrespondenceAction :=
  [.call [] (.requestPasswordReset "" "" "12" true), .tick 60,
    .call [] (.resetPassword "" "" "12" "new" ""),
    .call [] (.requestPasswordReset "" "" "34" true)]

theorem codes_spaced_patient :
    let S := Correspondence.mk 0 (account .staff 1)
      { resets := fun _ => none
        emailChanges := fun _ => none } []
    (S.run .plain patientCorrespondence).mailed = [(.passwordReset, 0), (.passwordReset, 60)] ∧
      CodesSpaced .plain (S.run .plain patientCorrespondence).mailed := by
  refine ⟨rfl, codes_spaced .plain 0 (account .staff 1) _ patientCorrespondence ?_⟩
  refine ⟨fun _ h => h.elim, trivial, ?_, fun _ h => h.elim, trivial⟩
  intro kind _ time htime
  cases kind with
  | passwordReset =>
      cases htime
      decide
  | emailChange => cases htime

/-- A code is requested and mailed, five wrong ones end it, and another is requested at once. -/
def impatientCorrespondence : List CorrespondenceAction :=
  let guess := CorrespondenceAction.call [] (.resetPassword "" "" "21" "new" "")
  [.call [] (.requestPasswordReset "" "" "12" true), guess, guess, guess, guess, guess,
    .call [] (.requestPasswordReset "" "" "34" true)]

/-- Two codes are mailed in the same instant. -/
theorem codes_unspaced :
    ¬ ∀ (env : AccountSettings) (now : Int) (user : Users) (challenges : Challenges)
      (actions : List CorrespondenceAction),
      CodesSpaced env ((Correspondence.mk now user challenges []).run env actions).mailed := by
  intro h
  have hmailed : ((Correspondence.mk 0 (account .staff 1)
      { resets := fun _ => none
        emailChanges := fun _ => none } []).run .plain impatientCorrespondence).mailed =
        [(.passwordReset, 0), (.passwordReset, 0)] := by
    decide +kernel
  have hspaced := h .plain 0 (account .staff 1)
    { resets := fun _ => none
      emailChanges := fun _ => none } impatientCorrespondence
  rw [hmailed] at hspaced
  have hpair := List.rel_of_pairwise_cons hspaced (List.mem_singleton_self _) rfl
  exact absurd hpair (by decide)

end Accounts
end RosarioDairy
