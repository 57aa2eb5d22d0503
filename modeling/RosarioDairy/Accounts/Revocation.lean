import RosarioDairy.Accounts.SignIns

/-!
# Revocation — a revoked token stays revoked

Token generations only rise and a deadline moves only while it is ahead.  So a token is accepted for
a user that was active and of its generation when read and a session that is not over.  Once its
session is over it is never accepted again, and once its generation is past only requests that had
read their user before accept it, each once.
-/

namespace RosarioDairy
namespace Accounts

open Foundations

/-! ## What a step may do -/

/-- The token generation of a user does not fall. -/
def GenerationLe (a b : Users) : Prop := a.tokenVersion ≤ b.tokenVersion

theorem GenerationLe.refl (row : Users) : GenerationLe row row := Nat.le_refl _

/-- A deadline stays, or moves on from an instant before it. -/
def DeadlineMoves (timeout now : Int) (a b : LoginSession) : Prop :=
  b.idleExpiresAt = a.idleExpiresAt ∨ (now < a.idleExpiresAt ∧ b.idleExpiresAt = now + timeout)

theorem DeadlineMoves.refl {timeout now : Int} (row : LoginSession) :
    DeadlineMoves timeout now row row := .inl rfl

/-- The committed row of the token's user is active and of the token's generation. -/
structure Good (S : SignIns) (user : Users) (token : TokenClaims) : Prop where
  row : S.users.table.find token.userId = some user
  active : user.isActive = true
  generation : token.generation = user.tokenVersion

/-- The session is the committed one the token names, the user's own, and not over. -/
structure SessionGood (S : SignIns) (a : Acceptance) : Prop where
  sid : a.token.sid = some a.session.pk
  row : S.sessions.table.find a.session.pk = some a.session
  owner : a.session.user = a.user.pk
  now : a.now = S.now
  deadline : S.now < a.session.idleExpiresAt

/-- A refresh accepts for the committed user, a request goes on with the user it has read. -/
def UserRead (S : SignIns) (a : Acceptance) : Prop :=
  match a.request with
  | none => Good S a.user a.token
  | some p => S.requests p = some (a.user, a.token)

/-- What a step that leads from `S` to `T` has checked when it accepts a token; a request ends with
it. -/
structure Granted (S T : SignIns) (a : Acceptance) : Prop where
  session : SessionGood S a
  user : UserRead S a
  ended : ∀ p, a.request = some p → T.requests p = none

/-- What a step may do to the rows, to the requests under way and to the record. -/
structure Allowed (timeout : Int) (S T : SignIns) : Prop where
  now : S.now ≤ T.now
  users : LockedTable.Evolves GenerationLe S.users T.users
  sessions : LockedTable.Evolves (DeadlineMoves timeout S.now) S.sessions T.sessions
  read : ∀ p user token, T.requests p = some (user, token) →
    S.requests p = some (user, token) ∨ Good S user token
  accepted : ∃ new, T.accepted = S.accepted ++ new ∧ new.length ≤ 1 ∧ ∀ a ∈ new, Granted S T a

section Steps

variable {env : AccountSettings} {timeout : Int} {S T : SignIns}

theorem nothing_accepted (haccepted : T.accepted = S.accepted) :
    ∃ new, T.accepted = S.accepted ++ new ∧ new.length ≤ 1 ∧ ∀ a ∈ new, Granted S T a :=
  ⟨[], by rw [haccepted, List.append_nil], Nat.zero_le _, fun a ha => by cases ha⟩

/-- A step that leaves the rows, the requests and the record alone. -/
theorem Allowed.quiet (hnow : S.now ≤ T.now) (husers : T.users.table = S.users.table)
    (hsessions : T.sessions.table = S.sessions.table) (hrequests : T.requests = S.requests)
    (haccepted : T.accepted = S.accepted) : Allowed timeout S T :=
  { now := hnow
    users := .of_table_eq GenerationLe.refl husers
    sessions := .of_table_eq DeadlineMoves.refl hsessions
    read := fun p user token h => .inl (by rw [← hrequests]; exact h)
    accepted := nothing_accepted haccepted }

theorem Allowed.refl : Allowed timeout S S :=
  .quiet (Int.le_refl _) rfl rfl rfl rfl

/-- A step that changes rows of users only. -/
theorem Allowed.of_users (husers : LockedTable.Evolves GenerationLe S.users T.users)
    (hnow : T.now = S.now) (hsessions : T.sessions = S.sessions)
    (hrequests : T.requests = S.requests) (haccepted : T.accepted = S.accepted) :
    Allowed timeout S T :=
  { now := Int.le_of_eq hnow.symm
    users := husers
    sessions := .of_table_eq DeadlineMoves.refl (by rw [hsessions])
    read := fun p user token h => .inl (by rw [← hrequests]; exact h)
    accepted := nothing_accepted haccepted }

theorem refreshAcceptance_granted {op : UserOp} {user : Users} {k : Nat}
    (hheld : S.users.held k = some (op, user)) (T : SignIns) :
    ∀ a ∈ S.refreshAcceptance env user op, Granted S T a := by
  intro a ha
  have hrow : S.users.table.find k = some user := S.users.current k op user hheld
  have hpk : user.pk = k := (Table.find_eq_some.1 hrow).2
  cases op with
  | refresh token verified reverified =>
      simp only [SignIns.refreshAcceptance] at ha
      split at ha
      · rename_i session token' hrefresh
        cases List.mem_singleton.1 ha
        rcases refreshToken_ok hrefresh with ⟨huser, hactive, hgeneration, hsession, _⟩
        rcases checkSession_ok hsession with ⟨sid, hsid, hfound, howner, hdeadline⟩
        have hkey : session.pk = sid := (Table.find_eq_some.1 hfound).2
        refine
          { session := ⟨?_, ?_, howner, rfl, hdeadline⟩
            user := ⟨?_, hactive, hgeneration⟩
            ended := fun p hp => by cases hp }
        · rw [hkey]
          exact hsid
        · rw [hkey]
          exact hfound
        · rw [huser, hpk]
          exact hrow
      · cases ha
  | _ => cases ha

theorem length_refreshAcceptance (user : Users) (op : UserOp) :
    (S.refreshAcceptance env user op).length ≤ 1 := by
  cases op with
  | refresh token verified reverified =>
      simp only [SignIns.refreshAcceptance]
      split
      · exact Nat.le_refl 1
      · exact Nat.zero_le 1
  | _ => exact Nat.zero_le 1

theorem finishUser_allowed (k : Nat) : Allowed timeout S (S.finishUser env k) := by
  unfold SignIns.finishUser
  split
  · exact .refl
  · rename_i op user hheld
    split
    · exact .quiet (Int.le_refl _) rfl rfl rfl rfl
    · rename_i change hrun
      exact
        { now := Int.le_refl _
          users := .save GenerationLe.refl hheld change.onto_pk
            (UserOp.generation_le hrun)
          sessions := .of_table_eq DeadlineMoves.refl rfl
          read := fun p user token h => .inl h
          accepted := ⟨_, rfl, length_refreshAcceptance user op,
            refreshAcceptance_granted hheld _⟩ }

/-- The saves of a login name columns other than the token generation. -/
theorem saveLogin_allowed {p : Nat} {user : Users} {save : UserSave} {next : Option LoginPhase}
    (hsave : ∀ row, (save.onto row).tokenVersion = row.tokenVersion) :
    Allowed timeout S (S.saveLogin p user save next) := by
  unfold SignIns.saveLogin
  split
  · exact .refl
  · refine .of_users (.touch GenerationLe.refl save.onto_pk fun row => ?_) rfl rfl rfl rfl
    exact Nat.le_of_eq (hsave row).symm

theorem issueToken_allowed (p : Nat) : Allowed env.idleTimeout S (S.issueToken env p) := by
  unfold SignIns.issueToken
  split
  · exact
      { (Allowed.refl : Allowed env.idleTimeout S S) with
        sessions := .insert DeadlineMoves.refl
        accepted := nothing_accepted rfl }
  · exact .refl

/-- Reported activity moves a deadline that is still ahead when it is written. -/
theorem finishActivity_allowed (k : Nat) : Allowed env.idleTimeout S (S.finishActivity env k) := by
  unfold SignIns.finishActivity
  split
  · exact .refl
  · rename_i holder session hheld
    split
    · exact .quiet (Int.le_refl _) rfl rfl rfl rfl
    · rename_i hdeadline
      refine { (Allowed.refl : Allowed env.idleTimeout S S) with
        sessions := ?_
        accepted := nothing_accepted rfl }
      exact .save (f := fun _ row => row.active env.idleTimeout S.now) DeadlineMoves.refl hheld
        (fun _ _ _ => rfl) (.inr ⟨require_eq_ok.1 hdeadline, rfl⟩)

theorem readUser_allowed (p : Nat) (token : TokenClaims) (verified : Bool) :
    Allowed timeout S (S.readUser env p token verified) := by
  unfold SignIns.readUser
  split
  · rename_i user huser
    refine { (Allowed.refl : Allowed timeout S S) with
      read := ?_
      accepted := nothing_accepted rfl }
    intro p' user' token' h
    change Function.update S.requests p (some (user, token)) p' = some (user', token') at h
    by_cases hp : p' = p
    · subst hp
      simp only [Function.update_self, Option.some.injEq, Prod.mk.injEq] at h
      rcases h with ⟨rfl, rfl⟩
      rcases authenticateUser_ok huser with ⟨hrow, hactive, hgeneration⟩
      exact .inr ⟨hrow, hactive, hgeneration⟩
    · rw [Function.update_of_ne hp] at h
      exact .inl h
  · exact .refl

/-- A request that has ended is not under way any more. -/
theorem read_ended {p : Nat} (p' : Nat) {entry : Users × TokenClaims}
    (h : Function.update S.requests p none p' = some entry) : S.requests p' = some entry := by
  by_cases hp : p' = p
  · subst hp
    simp at h
  · rw [Function.update_of_ne hp] at h
    exact h

theorem readSession_allowed (p : Nat) : Allowed timeout S (S.readSession p) := by
  unfold SignIns.readSession
  split
  · exact .refl
  · rename_i user token hrequest
    split
    · exact
        { (Allowed.refl : Allowed timeout S S) with
          read := fun p' user' token' h => .inl (read_ended p' h)
          accepted := nothing_accepted rfl }
    · rename_i session hsession
      rcases checkSession_ok hsession with ⟨sid, hsid, hfound, howner, hdeadline⟩
      have hkey : session.pk = sid := (Table.find_eq_some.1 hfound).2
      refine { (Allowed.refl : Allowed timeout S S) with
        read := fun p' user' token' h => .inl (read_ended p' h)
        accepted := ⟨_, rfl, Nat.le_refl 1, ?_⟩ }
      intro a ha
      cases List.mem_singleton.1 ha
      refine
        { session := ⟨?_, ?_, howner, rfl, hdeadline⟩
          user := hrequest
          ended := ?_ }
      · rw [hkey]
        exact hsid
      · rw [hkey]
        exact hfound
      · intro p' hp'
        cases hp'
        exact Function.update_self p none S.requests

/-- No step does more than is allowed. -/
theorem step_allowed (action : SignInAction) :
    Allowed env.idleTimeout S (S.step env action) := by
  cases action with
  | tick seconds => exact .quiet (Int.le_add_of_nonneg_right (Int.natCast_nonneg _)) rfl rfl rfl rfl
  | lockUser user op =>
      exact .quiet (Int.le_refl _) (LockedTable.table_lock _ _ _) rfl rfl rfl
  | finishUser user => exact finishUser_allowed user
  | abortUser user => exact .quiet (Int.le_refl _) rfl rfl rfl rfl
  | startLogin p username =>
      simp only [SignIns.step, SignIns.startLogin]
      split
      · exact .refl
      · exact .quiet (Int.le_refl _) rfl rfl rfl rfl
  | verifyLogin p password =>
      simp only [SignIns.step, SignIns.verifyLogin]
      split
      · exact .quiet (Int.le_refl _) rfl rfl rfl rfl
      · exact .refl
  | issueToken p => exact issueToken_allowed p
  | noteLogin p =>
      simp only [SignIns.step, SignIns.noteLogin]
      split
      · exact saveLogin_allowed fun _ => rfl
      · exact .refl
  | clearFailures p =>
      simp only [SignIns.step, SignIns.clearFailures]
      split
      · exact saveLogin_allowed fun _ => rfl
      · exact .refl
  | lockSession user token =>
      simp only [SignIns.step, SignIns.lockSession]
      split
      · exact .quiet (Int.le_refl _) rfl (LockedTable.table_lock _ _ _) rfl rfl
      · exact .refl
  | finishActivity session => exact finishActivity_allowed session
  | abortActivity session => exact .quiet (Int.le_refl _) rfl rfl rfl rfl
  | readUser p token verified => exact readUser_allowed p token verified
  | readSession p => exact readSession_allowed p
  | dropReset user otpDigest =>
      simp only [SignIns.step, SignIns.dropReset]
      split
      · exact .quiet (Int.le_refl _) rfl rfl rfl rfl
      · exact .refl
  | dropEmailChange user otpDigest =>
      simp only [SignIns.step, SignIns.dropEmailChange]
      split
      · exact .quiet (Int.le_refl _) rfl rfl rfl rfl
      · exact .refl

end Steps

/-! ## Runs -/

/-- The users that requests go on with were active and of the token's generation when read. -/
def ReadGood (S : SignIns) : Prop :=
  ∀ p user token, S.requests p = some (user, token) →
    user.isActive = true ∧ token.generation = user.tokenVersion

/-- The generation is past. -/
def Past (user generation : Nat) (S : SignIns) : Prop :=
  ∃ row, S.users.table.find user = some row ∧ generation < row.tokenVersion

/-- The deadline of the session has been reached. -/
def Over (session : Nat) (S : SignIns) : Prop :=
  ∃ row, S.sessions.table.find session = some row ∧ row.idleExpiresAt ≤ S.now

section Runs

variable {timeout : Int} {S T : SignIns}

theorem Allowed.readGood (h : Allowed timeout S T) (hgood : ReadGood S) : ReadGood T := by
  intro p user token hrequest
  rcases h.read p user token hrequest with hold | hnew
  · exact hgood p user token hold
  · exact ⟨hnew.active, hnew.generation⟩

theorem Allowed.past (h : Allowed timeout S T) {user generation : Nat}
    (hpast : Past user generation S) : Past user generation T := by
  rcases hpast with ⟨row, hrow, hlt⟩
  rcases h.users user row hrow with ⟨row', hrow', hle⟩
  exact ⟨row', hrow', Nat.lt_of_lt_of_le hlt hle⟩

theorem Allowed.over (h : Allowed timeout S T) {session : Nat} (hover : Over session S) :
    Over session T := by
  rcases hover with ⟨row, hrow, hle⟩
  rcases h.sessions session row hrow with ⟨row', hrow', hsame | ⟨hahead, _⟩⟩
  · refine ⟨row', hrow', ?_⟩
    rw [hsame]
    exact Int.le_trans hle h.now
  · exact absurd hahead (Int.not_lt.2 hle)

/-- A past generation is not read any more. -/
theorem Past.not_good {user generation : Nat} (hpast : Past user generation S) {copy : Users}
    {token : TokenClaims} (huser : token.userId = user) (hgeneration : token.generation = generation) :
    ¬ Good S copy token := by
  intro hgood
  rcases hpast with ⟨row, hrow, hlt⟩
  have hfind := hgood.row
  rw [huser, hrow] at hfind
  cases hfind
  have hsame := hgood.generation
  rw [hgeneration] at hsame
  exact absurd hsame (Nat.ne_of_lt hlt)

/-- A token of a past generation is accepted by a request under way only. -/
theorem Past.request {user generation : Nat} (hpast : Past user generation S) {a : Acceptance}
    (hgranted : Granted S T a) (huser : a.token.userId = user)
    (hgeneration : a.token.generation = generation) :
    ∃ p, a.request = some p ∧ S.requests p = some (a.user, a.token) := by
  have hread := hgranted.user
  unfold UserRead at hread
  cases hrequest : a.request with
  | none =>
      rw [hrequest] at hread
      exact absurd hread (hpast.not_good huser hgeneration)
  | some p =>
      rw [hrequest] at hread
      exact ⟨p, rfl, hread⟩

theorem Over.not_sessionGood {session : Nat} (hover : Over session S) {a : Acceptance}
    (hgood : SessionGood S a) : a.token.sid ≠ some session := by
  intro hsid
  rcases hover with ⟨row, hrow, hle⟩
  have hkey : a.session.pk = session := Option.some.inj (hgood.sid.symm.trans hsid)
  have hfind := hgood.row
  rw [hkey, hrow] at hfind
  cases hfind
  exact absurd hgood.deadline (Int.not_lt.2 hle)

end Runs

theorem run_cons (env : AccountSettings) (S : SignIns) (action : SignInAction)
    (actions : List SignInAction) :
    S.run env (action :: actions) = (S.step env action).run env actions := rfl

theorem run_readGood {env : AccountSettings} {S : SignIns} (hgood : ReadGood S) :
    ∀ actions, ReadGood (S.run env actions) := by
  intro actions
  induction actions generalizing S with
  | nil => exact hgood
  | cons action actions ih => exact ih ((step_allowed action).readGood hgood)

/-- A run that starts in a state of a kind every step keeps appends to the record what the kind
allows. -/
theorem run_appends {env : AccountSettings} {K : SignIns → Prop} {P : Acceptance → Prop}
    (hkeep : ∀ S action, K S → K (S.step env action))
    (hgranted : ∀ S T a, K S → Granted S T a → P a) {S : SignIns} (hK : K S) :
    ∀ actions, ∃ new, (S.run env actions).accepted = S.accepted ++ new ∧ ∀ a ∈ new, P a := by
  intro actions
  induction actions generalizing S with
  | nil => exact ⟨[], (List.append_nil _).symm, fun a ha => by cases ha⟩
  | cons action actions ih =>
      rcases (step_allowed action : Allowed env.idleTimeout S _).accepted with ⟨new, hnew, _, hall⟩
      rcases ih (hkeep S action hK) with ⟨rest, hrest, hallRest⟩
      refine ⟨new ++ rest, ?_, ?_⟩
      · rw [run_cons, hrest, hnew, List.append_assoc]
      · intro a ha
        rcases List.mem_append.1 ha with ha | ha
        · exact hgranted S _ a hK (hall a ha)
        · exact hallRest a ha

/-! ## Permanence -/

/-- The token is one of the user's in this generation. -/
def Acceptance.isOf (user generation : Nat) (a : Acceptance) : Bool :=
  a.token.userId = user && a.token.generation = generation

/-- The tokens of a generation among `new` were accepted by requests that had read their user in the
state `S` already, each of them by a request of its own. -/
structure OnlyUnderWay (S : SignIns) (user generation : Nat) (new : List Acceptance) : Prop where
  read : ∀ a ∈ new, a.token.userId = user → a.token.generation = generation →
    ∃ p, a.request = some p ∧ S.requests p = some (a.user, a.token)
  single : ((new.filter (Acceptance.isOf user generation)).map Acceptance.request).Nodup

/-- What holds in a state of a run: the next step accepts a token only for a session that is not over
and a user that was active and of its generation when read, which a refresh does as it accepts; it
moves a deadline only while that is ahead.  Whatever happens later, a token whose generation is past
is accepted only by a request that had read its user before, and by none once no such request is under
way, and a token whose session is over is not accepted. -/
structure Revocable (env : AccountSettings) (S : SignIns) : Prop where
  accepted : ∀ action, ∃ new, (S.step env action).accepted = S.accepted ++ new ∧
    ∀ a ∈ new, a.user.isActive = true ∧ a.token.generation = a.user.tokenVersion ∧
      SessionGood S a ∧ UserRead S a
  read : ∀ action p user token, (S.step env action).requests p = some (user, token) →
    S.requests p = some (user, token) ∨ Good S user token
  extended : ∀ action, LockedTable.Evolves (DeadlineMoves env.idleTimeout S.now) S.sessions
    (S.step env action).sessions
  generation : ∀ user generation, Past user generation S → ∀ actions, ∃ new,
    (S.run env actions).accepted = S.accepted ++ new ∧ OnlyUnderWay S user generation new
  retired : ∀ user generation, Past user generation S →
    (∀ p copy token, S.requests p = some (copy, token) → token.userId = user →
      token.generation ≠ generation) →
    ∀ actions, ∃ new, (S.run env actions).accepted = S.accepted ++ new ∧
      ∀ a ∈ new, a.token.userId = user → a.token.generation ≠ generation
  session : ∀ session, Over session S → ∀ actions, ∃ new,
    (S.run env actions).accepted = S.accepted ++ new ∧ ∀ a ∈ new, a.token.sid ≠ some session

theorem generation_stays_past {env : AccountSettings} {S : SignIns} {user generation : Nat}
    (hpast : Past user generation S) (actions : List SignInAction) :
    ∃ new, (S.run env actions).accepted = S.accepted ++ new ∧
      OnlyUnderWay S user generation new := by
  induction actions generalizing S with
  | nil =>
      refine ⟨[], (List.append_nil _).symm, ?_, List.nodup_nil⟩
      intro a ha
      cases ha
  | cons action actions ih =>
      have hstep : Allowed env.idleTimeout S (S.step env action) := step_allowed action
      rcases hstep.accepted with ⟨new, hnew, hlength, hall⟩
      rcases ih (hstep.past hpast) with ⟨rest, hrest, hunder⟩
      refine ⟨new ++ rest, by rw [run_cons, hrest, hnew, List.append_assoc], ?_, ?_⟩
      · intro a ha huser hgeneration
        rcases List.mem_append.1 ha with ha | ha
        · exact hpast.request (hall a ha) huser hgeneration
        · -- the request was under way before the step: it could not have read its user in it
          rcases hunder.read a ha huser hgeneration with ⟨p, hp, hrequest⟩
          rcases hstep.read p a.user a.token hrequest with hold | hgood
          · exact ⟨p, hp, hold⟩
          · exact absurd hgood (hpast.not_good huser hgeneration)
      · rw [List.filter_append, List.map_append, List.nodup_append]
        refine ⟨?_, hunder.single, ?_⟩
        · have hfew : ((new.filter (Acceptance.isOf user generation)).map
              Acceptance.request).length ≤ 1 := by
            rw [List.length_map]
            exact Nat.le_trans (List.length_filter_le _ _) hlength
          exact List.nodup_iff_count_le_one.2
            fun request => Nat.le_trans List.count_le_length hfew
        · -- a request that has accepted in the step is over
          intro request hfirst request' hlater hsame
          rcases List.mem_map.1 hfirst with ⟨a, ha, rfl⟩
          rcases List.mem_map.1 hlater with ⟨b, hb, rfl⟩
          rcases List.mem_filter.1 hb with ⟨hb, hof⟩
          simp only [Acceptance.isOf, Bool.and_eq_true, decide_eq_true_eq] at hof
          rcases hunder.read b hb hof.1 hof.2 with ⟨p, hp, hrequest⟩
          have hended := (hall a (List.mem_of_mem_filter ha)).ended p (hsame.trans hp)
          rw [hended] at hrequest
          cases hrequest

/-- With no such request under way the generation is retired. -/
theorem OnlyUnderWay.retired {S : SignIns} {user generation : Nat} {new : List Acceptance}
    (h : OnlyUnderWay S user generation new)
    (hnone : ∀ p copy token, S.requests p = some (copy, token) → token.userId = user →
      token.generation ≠ generation) :
    ∀ a ∈ new, a.token.userId = user → a.token.generation ≠ generation := by
  intro a ha huser hgeneration
  rcases h.read a ha huser hgeneration with ⟨p, _, hrequest⟩
  exact hnone p a.user a.token hrequest huser hgeneration

theorem session_stays_over {env : AccountSettings} {S : SignIns} {session : Nat}
    (hover : Over session S) (actions : List SignInAction) :
    ∃ new, (S.run env actions).accepted = S.accepted ++ new ∧
      ∀ a ∈ new, a.token.sid ≠ some session :=
  run_appends (K := Over session) (fun _ action h => (step_allowed action).over h)
    (fun _ _ _ h hgranted => h.not_sessionGood hgranted.session) hover actions

/-- Revocation is permanent in every run of logins, requests, refreshes, activity reports and account
changes, for all but the requests under way. -/
theorem revocation_permanent (env : AccountSettings) (now : Int) (users : Table Users)
    (sessions : Table LoginSession) (challenges : Challenges) (actions : List SignInAction) :
    Revocable env ((SignIns.init now users sessions challenges).run env actions) := by
  have hgood : ReadGood ((SignIns.init now users sessions challenges).run env actions) :=
    run_readGood (fun p user token h => by cases h) actions
  refine
    { accepted := fun action => ?_
      read := fun action => (step_allowed action).read
      extended := fun action => (step_allowed action).sessions
      generation := fun user generation hpast => generation_stays_past hpast
      retired := ?_
      session := fun session hover => session_stays_over hover }
  · rcases (step_allowed action).accepted with ⟨new, hnew, _, hall⟩
    refine ⟨new, hnew, ?_⟩
    intro a ha
    have huser := (hall a ha).user
    refine and_assoc.1 ⟨?_, (hall a ha).session, huser⟩
    unfold UserRead at huser
    cases hrequest : a.request with
    | none =>
        rw [hrequest] at huser
        exact ⟨huser.active, huser.generation⟩
    | some p =>
        rw [hrequest] at huser
        exact hgood p a.user a.token huser
  · intro user generation hpast hnone later
    rcases generation_stays_past hpast later with ⟨new, hnew, hunder⟩
    exact ⟨new, hnew, hunder.retired hnone⟩

/-- A token of generation zero for the first session of the first user. -/
def firstToken : TokenClaims :=
  { userId := 1
    tokenVersion := some 0
    sid := some 1
    hashPassword := some "" }

/-- The sign-ins after a request has read its user and the user has logged out. -/
def loggedOut : SignIns :=
  (SignIns.init 0 (Table.empty.create (account .staff))
      (Table.empty.create (newSession 900 0 (account .staff 1)))
      { resets := fun _ => none, emailChanges := fun _ => none }).run .plain
    [.readUser 1 firstToken true, .lockUser 1 (.logout firstToken true), .finishUser 1]

/-- A request that has read its user before the logout accepts the revoked token after it. -/
theorem request_outruns_logout :
    ¬ ∀ (env : AccountSettings) (now : Int) (users : Table Users) (sessions : Table LoginSession)
      (challenges : Challenges) (before later : List SignInAction) (user generation : Nat),
      Past user generation ((SignIns.init now users sessions challenges).run env before) →
        ∃ new, (((SignIns.init now users sessions challenges).run env before).run env later).accepted =
          ((SignIns.init now users sessions challenges).run env before).accepted ++ new ∧
          ∀ a ∈ new, a.token.userId = user → a.token.generation ≠ generation := by
  intro h
  have hpast : Past 1 0 loggedOut :=
    ⟨{ account .staff 1 with tokenVersion := 1 }, rfl, by decide⟩
  have haccepted : (loggedOut.run .plain [.tick 1, .readSession 1]).accepted =
      loggedOut.accepted ++
        [{ request := some 1
           token := firstToken
           user := account .staff 1
           session := newSession 900 0 (account .staff 1) 1
           now := 1 }] := by
    rfl
  rcases h _ _ _ _ _ _ [.tick 1, .readSession 1] 1 0 hpast with ⟨new, hnew, hnone⟩
  have hlast := List.append_cancel_left (haccepted.symm.trans hnew)
  rw [← hlast] at hnone
  exact hnone _ List.mem_cons_self rfl rfl

end Accounts
end RosarioDairy
