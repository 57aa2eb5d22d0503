import Mathlib.Data.List.TakeWhile
import RosarioDairy.Accounts.LockoutSteps

/-!
# LockoutRuns — when a lockout holds

Failures are counted under the lock of the row, and none is lost.  A successful login, however, takes
no lock: one that has read its account before a lockout is committed goes on to issue its token and
to clear the lockout.  Without such a login a lockout holds until its deadline or a new password.
-/

namespace RosarioDairy
namespace Accounts

open Foundations

namespace Lockouts

/-! ## The invariant -/

/-- The three ways to record a failure, and what each leaves of the row it was made on. -/
inductive Recorded (now : Int) (p : Nat) (copy row : Users) : List LockoutEvent → Prop
  | ignored (deadline : Int) (hlocked : copy.lockedUntil = some deadline) (hahead : now < deadline)
      (hrow : row = copy) : Recorded now p copy row [.ignored p copy.pk deadline now]
  | counted (hopen : copy.isOpen now = true)
      (hfew : copy.pendingFailures + 1 < loginMaxFailedAttempts)
      (hattempts : row.failedLoginAttempts = copy.pendingFailures + 1)
      (hrow : row.lockedUntil = none) : Recorded now p copy row [.counted p copy.pk]
  | lockedOut (hopen : copy.isOpen now = true)
      (hmany : loginMaxFailedAttempts ≤ copy.pendingFailures + 1)
      (hrow : row.lockedUntil = some (now + loginLockout)) :
      Recorded now p copy row [.counted p copy.pk, .lockedOut copy.pk (now + loginLockout)]

theorem recorded_failure (now : Int) (p : Nat) (copy : Users) (challenges : Challenges) :
    Recorded now p copy ((recordFailedLogin now copy challenges).save.onto copy)
      (failureEvents now p copy challenges) := by
  cases hlocked : copy.lockedUntil with
  | none =>
      -- no lock: the failure is counted, and the one that reaches the limit locks the account
      have hopen : copy.isOpen now = true := by simp [Users.isOpen, hlocked]
      by_cases hmany : loginMaxFailedAttempts ≤ copy.failedLoginAttempts + 1
      · have hevents : failureEvents now p copy challenges =
            [.counted p copy.pk, .lockedOut copy.pk (now + loginLockout)] := by
          simp [failureEvents, recordFailedLogin, hlocked, hmany]
        rw [hevents]
        refine .lockedOut hopen (by simpa [Users.pendingFailures, hlocked] using hmany) ?_
        simp [recordFailedLogin, hlocked, hmany, UserSave.onto, Users.copyField]
      · have hevents : failureEvents now p copy challenges = [.counted p copy.pk] := by
          simp [failureEvents, recordFailedLogin, hlocked, hmany]
        rw [hevents]
        refine .counted hopen (by simpa [Users.pendingFailures, hlocked] using hmany) ?_ ?_
        · simp [recordFailedLogin, hlocked, UserSave.onto, Users.copyField, Users.pendingFailures]
        · simp [recordFailedLogin, hlocked, hmany, UserSave.onto, Users.copyField]
  | some deadline =>
      by_cases hahead : now < deadline
      · -- a lock that still holds: the failure changes nothing
        have hevents : failureEvents now p copy challenges =
            [.ignored p copy.pk deadline now] := by
          simp [failureEvents, hlocked, hahead]
        rw [hevents]
        refine .ignored deadline hlocked hahead ?_
        simp [recordFailedLogin, hlocked, hahead, UserChange.keep, UserSave.onto]
      · -- a lock that has run out starts the count again at one, below the limit
        have hevents : failureEvents now p copy challenges = [.counted p copy.pk] := by
          simp [failureEvents, recordFailedLogin, hlocked, hahead, loginMaxFailedAttempts]
        rw [hevents]
        have hopen : copy.isOpen now = true := by
          simpa [Users.isOpen, hlocked] using hahead
        refine .counted hopen (by simp [Users.pendingFailures, hlocked, loginMaxFailedAttempts]) ?_ ?_
        · simp [recordFailedLogin, hlocked, hahead, UserSave.onto, Users.copyField,
            Users.pendingFailures]
        · simp [recordFailedLogin, hlocked, hahead, UserSave.onto, Users.copyField,
            loginMaxFailedAttempts]

/-- The row of an account carries the deadline. -/
def LockedUntil (S : Lockouts) (user : Nat) (deadline : Int) : Prop :=
  ∃ row, S.table.find user = some row ∧ row.lockedUntil = some deadline

/-- Logins under way have an open account, and a lockout stands in the row until its deadline or a
reset. -/
structure Guarded (env : AccountSettings) (S : Lockouts) : Prop where
  inFlight : ∀ p user, S.InFlight env p user → S.OpenRow user
  respected : LockoutsHold S.log
  standing : ∀ pre post user deadline, S.log = pre ++ .lockedOut user deadline :: post →
    .reset user ∈ post ∨ deadline ≤ S.signIns.now ∨ S.LockedUntil user deadline

section Invariant

variable {env : AccountSettings} {S T : Lockouts} {action : LockoutAction}

theorem OpenRow.deadline {user : Nat} {deadline : Int} (hopen : S.OpenRow user)
    (hlocked : S.LockedUntil user deadline) : deadline ≤ S.signIns.now := by
  obtain ⟨row, hfind, hopen⟩ := hopen
  obtain ⟨row', hfind', hlocked⟩ := hlocked
  rw [hfind] at hfind'
  obtain rfl := Option.some.inj hfind'
  rw [Users.isOpen, hlocked] at hopen
  exact of_decide_eq_true hopen

/-- A step leaves an open account open, unless it records the failure that locks it out. -/
theorem Effect.keeps_open (h : Effect S T action) (hnow : S.signIns.now ≤ T.signIns.now) {user : Nat}
    (hopen : S.OpenRow user)
    (hspare : ∀ p copy, action = .recordFailure p → S.Waits p copy.pk →
      S.recording copy.pk = some p → S.signIns.users.held copy.pk = some (.failedLogin, copy) →
        copy.pk = user → copy.isOpen S.signIns.now = true →
          ¬ loginMaxFailedAttempts ≤ copy.pendingFailures + 1) : T.OpenRow user := by
  obtain ⟨row, hfind, hrow⟩ := hopen
  have hlater := isOpen_mono hrow hnow
  -- an effect on one row keeps `user` open when it leaves that row open
  have hcleared {k : Nat} {f : Users → Users} (hrows : Changes S T k f)
      (hf : k = user → (f row).isOpen T.signIns.now = true) : T.OpenRow user := by
    have hT := hrows user
    rw [hfind] at hT
    split at hT
    · rename_i hk
      exact ⟨f row, hT, hf hk.symm⟩
    · exact ⟨row, hT, hlater⟩
  cases h with
  | quiet events hrows hevents hlog =>
      -- nothing of the login columns changes
      have hT := hrows user
      rw [hfind] at hT
      obtain ⟨row', hrow', hcolumns⟩ := Option.map_eq_some_iff.1 hT
      simp only [loginColumns, Prod.mk.injEq] at hcolumns
      refine ⟨row', hrow', ?_⟩
      unfold Users.isOpen at hlater ⊢
      rw [hcolumns.2.2.2.2]
      exact hlater
  | issued p user' hlogin hrows hlog =>
      refine ⟨row, ?_, hlater⟩
      rw [hrows]
      exact hfind
  | recorded p copy haction hwaits hrecording hheld hrows hlog =>
      have hcopy : S.table.find copy.pk = some copy := S.signIns.users.current _ _ _ hheld
      refine hcleared hrows ?_
      rintro rfl
      -- the copy under the lock is the stored row, so the failure is judged on that row
      rw [hcopy] at hfind
      obtain rfl := Option.some.inj hfind
      have hrecorded := recorded_failure S.signIns.now p copy S.signIns.challenges
      generalize (recordFailedLogin S.signIns.now copy S.signIns.challenges).save.onto copy = saved
        at hrecorded ⊢
      generalize failureEvents S.signIns.now p copy S.signIns.challenges = events at hrecorded
      cases hrecorded with
      | ignored deadline hlocked hahead hsaved =>
          rw [hsaved]
          exact hlater
      | counted hopen hfew hattempts hsaved =>
          unfold Users.isOpen
          rw [hsaved]
          rfl
      | lockedOut hopen hmany hsaved =>
          -- locking an open account is what `hspare` excludes while a login is in flight
          exact absurd hmany (hspare p copy haction hwaits hrecording hheld rfl hopen)
  | cleared p user' hlogin hrows hlog => exact hcleared hrows fun _ => rfl
  | reset user' f hnew hrows hlog =>
      refine hcleared hrows fun _ => ?_
      unfold Users.isOpen
      rw [(hnew row).2]
      rfl

/-- A standing lockout outlasts a step, unless the step is a reset or the save of a login. -/
theorem Effect.locked (h : Effect S T action) {user : Nat} {deadline : Int}
    (hlocked : S.LockedUntil user deadline) (hahead : S.signIns.now < deadline)
    (hcleared : ∀ p copy, S.signIns.logins p = some (.noted copy) → copy.pk ≠ user) :
    T.LockedUntil user deadline ∨ T.log = S.log ++ [.reset user] := by
  obtain ⟨row, hfind, hrow⟩ := hlocked
  have hchanged {k : Nat} {f : Users → Users} (hrows : Changes S T k f)
      (hf : k = user → (f row).lockedUntil = some deadline) : T.LockedUntil user deadline := by
    have hT := hrows user
    rw [hfind] at hT
    split at hT
    · rename_i hk
      exact ⟨f row, hT, hf hk.symm⟩
    · exact ⟨row, hT, hrow⟩
  cases h with
  | quiet events hrows hevents hlog =>
      have hT := hrows user
      rw [hfind] at hT
      obtain ⟨row', hrow', hcolumns⟩ := Option.map_eq_some_iff.1 hT
      simp only [loginColumns, Prod.mk.injEq] at hcolumns
      exact Or.inl ⟨row', hrow', hcolumns.2.2.2.2.trans hrow⟩
  | issued p user' hlogin hrows hlog =>
      refine Or.inl ⟨row, ?_, hrow⟩
      rw [hrows]
      exact hfind
  | recorded p copy haction hwaits hrecording hheld hrows hlog =>
      have hcopy : S.table.find copy.pk = some copy := S.signIns.users.current _ _ _ hheld
      refine Or.inl (hchanged hrows ?_)
      rintro rfl
      rw [hcopy] at hfind
      obtain rfl := Option.some.inj hfind
      -- the record of a failure ignores it
      simp [recordFailedLogin, hrow, hahead, UserChange.keep, UserSave.onto]
  | cleared p user' hlogin hrows hlog =>
      exact Or.inl (hchanged hrows fun hk => absurd hk (hcleared p user' hlogin))
  | reset user' f hnew hrows hlog =>
      by_cases hk : user' = user
      · subst hk
        exact Or.inr hlog
      · exact Or.inl (hchanged hrows fun hEq => absurd hEq hk)

/-- The events of a step: none breaks a lockout unless it is of a login under way, and a lockout it
commits stands in the row. -/
theorem Effect.events (h : Effect S T action) : ∃ events, T.log = S.log ++ events ∧
    (∀ user deadline, ∀ e ∈ events, e.Breaks user deadline →
      S.signIns.now < deadline ∧ ∃ p, S.InFlight env p user) ∧
    ∀ pre post user deadline, events = pre ++ .lockedOut user deadline :: post →
      post = [] ∧ T.LockedUntil user deadline := by
  -- rejected logins neither break a lock nor commit one
  have hquiet {events : List LockoutEvent} (hevents : ∀ e ∈ events, ∃ p user, e = .rejected p user) :
      (∀ user deadline, ∀ e ∈ events, e.Breaks user deadline →
        S.signIns.now < deadline ∧ ∃ p, S.InFlight env p user) ∧
      ∀ pre post user deadline, events = pre ++ .lockedOut user deadline :: post →
        post = [] ∧ T.LockedUntil user deadline := by
    refine ⟨?_, ?_⟩
    · intro user deadline e he hbreaks
      obtain ⟨p, user', rfl⟩ := hevents e he
      exact hbreaks.elim
    · intro pre post user deadline hsplit
      obtain ⟨p, user', hEq⟩ := hevents (.lockedOut user deadline) (by rw [hsplit]; simp)
      cases hEq
  -- an effect that logs one event, not a lock, commits no lock
  have hlone {e : LockoutEvent} (he : ∀ user deadline, e ≠ .lockedOut user deadline) :
      ∀ pre post user deadline, [e] = pre ++ .lockedOut user deadline :: post →
        post = [] ∧ T.LockedUntil user deadline := by
    intro pre post user deadline hsplit
    have hmem : LockoutEvent.lockedOut user deadline ∈ [e] := by rw [hsplit]; simp
    exact absurd (List.mem_singleton.1 hmem).symm (he user deadline)
  cases h with
  | quiet events hrows hevents hlog => exact ⟨events, hlog, hquiet hevents⟩
  | issued p user' hlogin hrows hlog =>
      refine ⟨_, hlog, ?_, hlone fun _ _ hEq => by cases hEq⟩
      intro user deadline e he hbreaks
      obtain rfl := List.mem_singleton.1 he
      -- only an issued token can break a lock, and its login was in flight
      exact ⟨hbreaks.2, p, (inFlight_iff env hlogin (Or.inl rfl)).2 hbreaks.1⟩
  | recorded p copy haction hwaits hrecording hheld hrows hlog =>
      have hcopy : S.table.find copy.pk = some copy := S.signIns.users.current _ _ _ hheld
      refine ⟨_, hlog, ?_⟩
      have hrecorded := recorded_failure S.signIns.now p copy S.signIns.challenges
      have hsaved := (hrows copy.pk).trans (if_pos rfl)
      rw [hcopy, Option.map_some] at hsaved
      generalize (recordFailedLogin S.signIns.now copy S.signIns.challenges).save.onto copy = saved
        at hrecorded hsaved
      generalize failureEvents S.signIns.now p copy S.signIns.challenges = events at hrecorded ⊢
      cases hrecorded with
      | ignored deadline hlocked hahead hsame =>
          refine ⟨?_, hlone fun _ _ hEq => by cases hEq⟩
          intro user deadline e he hbreaks
          obtain rfl := List.mem_singleton.1 he
          exact hbreaks.elim
      | counted hopen hfew hattempts hnone =>
          refine ⟨?_, hlone fun _ _ hEq => by cases hEq⟩
          intro user deadline e he hbreaks
          obtain rfl := List.mem_singleton.1 he
          exact hbreaks.elim
      | lockedOut hopen hmany hlocked =>
          refine ⟨?_, ?_⟩
          · intro user deadline e he hbreaks
            rcases List.mem_cons.1 he with rfl | he
            · exact hbreaks.elim
            · obtain rfl := List.mem_singleton.1 he
              exact hbreaks.elim
          · intro pre post user deadline hsplit
            rcases pre with _ | ⟨first, rest⟩
            · cases hsplit
            · obtain ⟨_, hsplit⟩ := List.cons.inj hsplit
              rcases rest with _ | ⟨second, rest⟩
              · -- the lock is the last event logged, and the stored row carries its deadline
                cases hsplit
                exact ⟨rfl, _, hsaved, hlocked⟩
              · simp at hsplit
  | cleared p user' hlogin hrows hlog =>
      refine ⟨_, hlog, ?_, hlone fun _ _ hEq => by cases hEq⟩
      intro user deadline e he hbreaks
      obtain rfl := List.mem_singleton.1 he
      exact ⟨hbreaks.2, p, (inFlight_iff env hlogin (Or.inr (Or.inr rfl))).2 hbreaks.1⟩
  | reset user' f hnew hrows hlog =>
      refine ⟨_, hlog, ?_, hlone fun _ _ hEq => by cases hEq⟩
      intro user deadline e he hbreaks
      obtain rfl := List.mem_singleton.1 he
      exact hbreaks.elim

/-- Where a commit of a lockout stands in a longer log. -/
theorem split_append {α : Type} {log events pre post : List α} {e : α}
    (h : log ++ events = pre ++ e :: post) :
    (∃ post', log = pre ++ e :: post' ∧ post = post' ++ events) ∨
      ∃ pre', events = pre' ++ e :: post := by
  rcases List.append_eq_append_iff.1 h with ⟨pre', _, hevents⟩ | ⟨rest, hlog, hrest⟩
  · exact Or.inr ⟨pre', hevents⟩
  · cases rest with
    | nil => exact Or.inr ⟨[], hrest.symm⟩
    | cons first post' =>
        obtain ⟨rfl, hpost⟩ := List.cons.inj hrest
        exact Or.inl ⟨post', hlog, hpost⟩

theorem mem_takeWhile_append {α : Type} {p : α → Bool} {xs ys : List α} {e : α}
    (h : e ∈ (xs ++ ys).takeWhile p) :
    e ∈ xs.takeWhile p ∨ ((∀ x ∈ xs, p x = true) ∧ e ∈ ys) := by
  by_cases hall : ∀ x ∈ xs, p x = true
  · rw [List.takeWhile_append_of_pos hall] at h
    rcases List.mem_append.1 h with hxs | hys
    · rw [List.takeWhile_eq_self_iff.2 hall]
      exact Or.inl hxs
    · exact Or.inr ⟨hall, (List.takeWhile_sublist p).subset hys⟩
  · refine Or.inl ?_
    have hshort : (xs.takeWhile p).length ≠ xs.length := by
      intro hlength
      have hself := (List.takeWhile_prefix p).eq_of_length hlength
      exact hall (List.takeWhile_eq_self_iff.1 hself)
    rw [List.takeWhile_append, if_neg hshort] at h
    exact h

theorem Guarded.step (h : Guarded env S) {action : LockoutAction}
    (hspares : S.Spares env action) : Guarded env (S.step env action) := by
  have heffect : Effect S (S.step env action) action := step_effect env S action
  have hnow := step_now env S action
  obtain ⟨events, hlog, hbreaks, hcommits⟩ := heffect.events
  -- one proof for each field: who is in flight, past locks respected, locks that still stand
  refine
    { inFlight := ?_
      respected := ?_
      standing := ?_ }
  · intro p user hflight
    rcases step_inFlight action hflight with hbefore | hopen
    · refine heffect.keeps_open hnow (h.inFlight p user hbefore) ?_
      rintro q copy rfl hwaits hrecording hheld rfl hopen hmany
      exact hspares copy.pk copy hwaits hrecording hheld hopen hmany p hbefore
    · exact hopen
  · intro pre post user deadline hsplit e he hbreak
    rw [hlog] at hsplit
    rcases split_append hsplit with ⟨post', hold, rfl⟩ | ⟨pre', hnew⟩
    · rcases mem_takeWhile_append he with hearlier | ⟨hkept, hevent⟩
      · exact h.respected pre post' user deadline hold e hearlier hbreak
      · -- the login that acts is under way, so the account is open
        obtain ⟨hahead, p, hflight⟩ := hbreaks user deadline e hevent hbreak
        rcases h.standing pre post' user deadline hold with hreset | hpast | hlocked
        · exact of_decide_eq_true (hkept _ hreset) rfl
        · exact absurd hpast (Int.not_le.2 hahead)
        · exact absurd ((h.inFlight p user hflight).deadline hlocked) (Int.not_le.2 hahead)
    · -- a lock committed in this step has nothing after it
      obtain ⟨rfl, _⟩ := hcommits pre' post user deadline hnew
      cases he
  · intro pre post user deadline hsplit
    rw [hlog] at hsplit
    rcases split_append hsplit with ⟨post', hold, rfl⟩ | ⟨pre', hnew⟩
    · rcases h.standing pre post' user deadline hold with hreset | hpast | hlocked
      · exact Or.inl (List.mem_append_left _ hreset)
      · exact Or.inr (Or.inl (Int.le_trans hpast hnow))
      · by_cases hahead : S.signIns.now < deadline
        · -- a login past its check would have found the account open at this deadline
          have hnoted : ∀ p copy, S.signIns.logins p = some (.noted copy) → copy.pk ≠ user := by
            rintro p copy hlogin rfl
            have hflight := (inFlight_iff env hlogin (Or.inr (Or.inr rfl))).2 rfl
            have hpast := (h.inFlight p copy.pk hflight).deadline hlocked
            exact absurd hpast (Int.not_le.2 hahead)
          rcases heffect.locked hlocked hahead hnoted with hstill | hreset
          · exact Or.inr (Or.inr hstill)
          · have hevents : events = [.reset user] := List.append_cancel_left (hlog.symm.trans hreset)
            rw [hevents]
            exact Or.inl (List.mem_append_right _ (List.mem_singleton_self _))
        · exact Or.inr (Or.inl (Int.le_trans (Int.not_lt.1 hahead) hnow))
    · obtain ⟨rfl, hlocked⟩ := hcommits pre' post user deadline hnew
      exact Or.inr (Or.inr hlocked)

end Invariant

/-! ## Counting -/

section Counting

variable {env : AccountSettings} {S T : Lockouts} {action : LockoutAction}

/-- What the events of a step do to the tally of an account, they do to its row. -/
theorem Effect.tallied (h : Effect S T action) : ∃ events, T.log = S.log ++ events ∧
    (∀ user, (T.table.find user).map Users.pendingFailures = (S.table.find user).map fun row =>
      events.foldl (LockoutEvent.tally user) row.pendingFailures) ∧
    (∀ p user deadline now, .ignored p user deadline now ∈ events → now < deadline) ∧
    ((∀ row ∈ S.table.rows, row.pendingFailures < loginMaxFailedAttempts) →
      ∀ row ∈ T.table.rows, row.pendingFailures < loginMaxFailedAttempts) := by
  have hrow {row : Users} (hmem : row ∈ T.table.rows) : T.table.find row.pk = some row :=
    Table.find_eq_some.2 ⟨hmem, rfl⟩
  -- an effect on row `k` moves the tally of `k` by its events and no other tally
  have hchanged {k : Nat} {f : Users → Users} (hrows : Changes S T k f) {events : List LockoutEvent}
      (hf : ∀ row, S.table.find k = some row → (f row).pendingFailures =
        events.foldl (LockoutEvent.tally k) row.pendingFailures)
      (hothers : ∀ user n, user ≠ k → events.foldl (LockoutEvent.tally user) n = n) (user : Nat) :
      (T.table.find user).map Users.pendingFailures = (S.table.find user).map fun row =>
        events.foldl (LockoutEvent.tally user) row.pendingFailures := by
    rw [hrows user]
    by_cases hk : user = k
    · subst hk
      rw [if_pos rfl]
      cases hfind : S.table.find user with
      | none => rfl
      | some row => exact congrArg some (hf row hfind)
    · rw [if_neg hk]
      simp only [hothers user _ hk]
  -- and keeps every count under the limit when it keeps the one of row `k` under it
  have hfew {k : Nat} {f : Users → Users} (hrows : Changes S T k f)
      (hf : ∀ row, S.table.find k = some row → (f row).pendingFailures < loginMaxFailedAttempts ∨
        f row = row)
      (hbefore : ∀ row ∈ S.table.rows, row.pendingFailures < loginMaxFailedAttempts) :
      ∀ row ∈ T.table.rows, row.pendingFailures < loginMaxFailedAttempts := by
    intro row hmem
    have hT := (hrows row.pk).symm.trans (hrow hmem)
    split at hT
    · rename_i hk
      obtain ⟨old, hold, hEq⟩ := Option.map_eq_some_iff.1 hT
      rcases hf old (hk ▸ hold) with hnew | hsame
      · exact hEq ▸ hnew
      · rw [← hEq, hsame]
        exact hbefore old (Table.find_eq_some.1 hold).1
    · exact hbefore row (Table.find_eq_some.1 hT).1
  cases h with
  | quiet events hrows hevents hlog =>
      have hpending (user : Nat) : (T.table.find user).map Users.pendingFailures =
          (S.table.find user).map Users.pendingFailures := by
        -- the pending count is read from the columns that a quiet effect keeps
        have hmap := congrArg (Option.map fun columns : String × String × Bool × Nat × Option Int =>
          if columns.2.2.2.2.isSome then 0 else columns.2.2.2.1) (hrows user)
        rw [Option.map_map, Option.map_map] at hmap
        exact hmap
      refine ⟨events, hlog, fun user => (hpending user).trans ?_, ?_, ?_⟩
      · have hfold : ∀ events : List LockoutEvent, (∀ e ∈ events, ∃ p user, e = .rejected p user) →
            ∀ n, events.foldl (LockoutEvent.tally user) n = n := by
          intro events hevents
          induction events with
          | nil => exact fun _ => rfl
          | cons e events ih =>
              intro n
              obtain ⟨p, user', rfl⟩ := hevents e List.mem_cons_self
              exact ih (fun e he => hevents e (List.mem_cons_of_mem _ he)) n
        simp only [hfold events hevents]
      · intro p user deadline now hmem
        obtain ⟨p', user', hEq⟩ := hevents _ hmem
        cases hEq
      · intro hbefore row hmem
        have hEq := hpending row.pk
        rw [hrow hmem] at hEq
        obtain ⟨old, hold, hsame⟩ := Option.map_eq_some_iff.1 hEq.symm
        exact hsame ▸ hbefore old (Table.find_eq_some.1 hold).1
  | issued p user' hlogin hrows hlog =>
      refine ⟨_, hlog, fun user => by rw [hrows]; rfl, ?_, by rw [hrows]; exact id⟩
      intro p user deadline now hmem
      cases List.mem_singleton.1 hmem
  | recorded p copy haction hwaits hrecording hheld hrows hlog =>
      have hcopy : S.table.find copy.pk = some copy := S.signIns.users.current _ _ _ hheld
      have hrecorded := recorded_failure S.signIns.now p copy S.signIns.challenges
      generalize hevents : failureEvents S.signIns.now p copy S.signIns.challenges = events
        at hrecorded hlog
      -- the lock is on the stored row, so `copy` is that row
      have honly (row : Users) (hfind : S.table.find copy.pk = some row) : row = copy :=
        Option.some.inj (hfind.symm.trans hcopy)
      cases hrecorded with
      | ignored deadline hlocked hahead hsame =>
          -- a failure met by a lock: neither the count nor the row moves
          refine ⟨_, hlog, hchanged hrows ?_ fun _ _ _ => rfl, ?_, hfew hrows ?_⟩
          · intro row hfind
            obtain rfl := honly row hfind
            rw [hsame]
            rfl
          · intro p' user deadline' now hmem
            cases List.mem_singleton.1 hmem
            exact hahead
          · intro row hfind
            obtain rfl := honly row hfind
            exact Or.inr hsame
      | counted hopen hfewer hattempts hnone =>
          have hpending : ((recordFailedLogin S.signIns.now copy
              S.signIns.challenges).save.onto copy).pendingFailures = copy.pendingFailures + 1 := by
            rw [Users.pendingFailures, hnone, ← hattempts]
            rfl
          -- a counted failure: one more on both sides
          refine ⟨_, hlog, hchanged hrows ?_ ?_, ?_, hfew hrows ?_⟩
          · intro row hfind
            obtain rfl := honly row hfind
            rw [hpending]
            simp [LockoutEvent.tally]
          · intro user n hne
            simp [LockoutEvent.tally, hne.symm]
          · intro p' user deadline' now hmem
            cases List.mem_singleton.1 hmem
          · intro row hfind
            obtain rfl := honly row hfind
            exact Or.inl (hpending ▸ hfewer)
      | lockedOut hopen hmany hlocked =>
          have hpending : ((recordFailedLogin S.signIns.now copy
              S.signIns.challenges).save.onto copy).pendingFailures = 0 := by
            rw [Users.pendingFailures, hlocked]
            rfl
          -- the failure that locks: both sides start again from zero
          refine ⟨_, hlog, hchanged hrows ?_ ?_, ?_, hfew hrows ?_⟩
          · intro row hfind
            obtain rfl := honly row hfind
            rw [hpending]
            simp [LockoutEvent.tally]
          · intro user n hne
            simp [LockoutEvent.tally, hne.symm]
          · intro p' user deadline' now hmem
            simp at hmem
          · intro row hfind
            obtain rfl := honly row hfind
            exact Or.inl (by rw [hpending]; decide)
  | cleared p user' hlogin hrows hlog =>
      refine ⟨_, hlog, hchanged hrows ?_ ?_, ?_, hfew hrows fun row _ => Or.inl ?_⟩
      · intro row _
        simp [LockoutEvent.tally, Users.pendingFailures, clearedFailures, UserSave.onto,
          Users.copyField]
      · intro user n hne
        simp [LockoutEvent.tally, hne.symm]
      · intro p user deadline now hmem
        cases List.mem_singleton.1 hmem
      · simp [Users.pendingFailures, clearedFailures, UserSave.onto, Users.copyField,
          loginMaxFailedAttempts]
  | reset user' f hnew hrows hlog =>
      have hpending (row : Users) : (f row).pendingFailures = 0 := by
        rw [Users.pendingFailures, (hnew row).1, (hnew row).2]
        rfl
      refine ⟨_, hlog, hchanged hrows ?_ ?_, ?_, hfew hrows fun row _ => Or.inl ?_⟩
      · intro row _
        rw [hpending]
        simp [LockoutEvent.tally]
      · intro user n hne
        simp [LockoutEvent.tally, hne.symm]
      · intro p user deadline now hmem
        cases List.mem_singleton.1 hmem
      · rw [hpending]
        decide

/-- The failures of a login: those that were noticed, those recorded, and the one it waits with. -/
def Accounted (S : Lockouts) (p user : Nat) : Prop :=
  S.log.countP (fun e => decide (e = .rejected p user)) =
    S.log.countP (LockoutEvent.records p user) + if S.Waits p user then 1 else 0

/-- A step that neither notices nor records a failure. -/
theorem Accounted.other {p user : Nat} (h : S.Accounted p user)
    (hattempt : T.Waits p user ↔ S.Waits p user) {events : List LockoutEvent}
    (hlog : T.log = S.log ++ events)
    (hevents : ∀ e ∈ events, e ≠ .rejected p user ∧ e.records p user = false) :
    T.Accounted p user := by
  unfold Accounted at h ⊢
  rw [hlog, List.countP_append, List.countP_append, h]
  have hrejected : events.countP (fun e => decide (e = .rejected p user)) = 0 :=
    List.countP_eq_zero.2 fun e he => by simpa using (hevents e he).1
  have hrecords : events.countP (LockoutEvent.records p user) = 0 :=
    List.countP_eq_zero.2 fun e he => by simp [(hevents e he).2]
  rw [hrejected, hrecords]
  simp only [Nat.add_zero, hattempt]

theorem startLogin_accounted {p user : Nat} (h : S.Accounted p user) (q : Nat)
    (username password : String) : (S.startLogin q username password).Accounted p user := by
  unfold startLogin
  split
  · exact h
  · rename_i hfree
    refine h.other ?_ (List.append_nil _).symm (fun e he => by cases he)
    by_cases hq : p = q
    · subst hq
      have hnone : S.attempts p = none := by
        simp only [Bool.or_eq_true, not_or, Bool.not_eq_true, Option.isSome_eq_false_iff,
          Option.isNone_iff_eq_none] at hfree
        exact hfree.2
      simp [Waits, hnone]
    · simp [Waits, Function.update_of_ne hq]

theorem verifyLogin_accounted {p user : Nat} (h : S.Accounted p user) (q : Nat) :
    (S.verifyLogin env q).Accounted p user := by
  unfold verifyLogin
  split
  · rename_i password found hattempt
    simp only
    -- a login already issued has no failed attempt, whatever the password
    generalize hfailed : (if ((S.signIns.verifyLogin env q password).logins q).isSome then none
      else found) = failed
    by_cases hq : p = q
    · subst hq
      cases failed with
      | none =>
          -- the password was right: attempt `p` waits for no recording
          refine h.other ?_ rfl (fun e he => by cases he)
          simp [Waits, hattempt]
      | some user' =>
          unfold Accounted at h ⊢
          by_cases huser : user' = user
          · subst huser
            simp [h, hattempt, Waits, LockoutEvent.records]
          · simp [h, hattempt, Waits, LockoutEvent.records, huser]
    · -- another attempt: neither its wait nor its events change
      refine h.other ?_ rfl ?_
      · simp [Waits, Function.update_of_ne hq]
      · intro e he
        cases failed with
        | none => cases he
        | some user' =>
            obtain rfl := List.mem_singleton.1 he
            refine ⟨?_, rfl⟩
            intro hEq
            cases hEq
            exact hq rfl
  · exact h

theorem recordFailure_accounted {p user : Nat} (h : S.Accounted p user) (q : Nat) :
    (S.recordFailure env q).Accounted p user := by
  unfold recordFailure
  split
  · rename_i user' hattempt
    split
    · rename_i copy hheld
      split
      · -- the held copy names the row, so the recording is for `copy.pk`
        obtain rfl : copy.pk = user' :=
          (Table.find_eq_some.1 (S.signIns.users.current _ _ _ hheld)).2
        have hrecorded := recorded_failure S.signIns.now q copy S.signIns.challenges
        generalize failureEvents S.signIns.now q copy S.signIns.challenges = events at hrecorded
        -- for attempt `p` and its own account the wait ends and one event is logged
        by_cases hmine : p = q ∧ user = copy.pk
        · obtain ⟨rfl, rfl⟩ := hmine
          have hwaits : S.Waits p copy.pk := hattempt
          unfold Accounted at h ⊢
          rw [if_pos hwaits] at h
          cases hrecorded with
          | ignored => simp [h, Waits, LockoutEvent.records]
          | counted => simp [h, Waits, LockoutEvent.records]
          | lockedOut => simp [h, Waits, LockoutEvent.records]
        · -- for anyone else nothing is logged and no wait changes
          refine h.other ?_ rfl ?_
          · by_cases hq : p = q
            · subst hq
              have hne : copy.pk ≠ user := fun hEq => hmine ⟨rfl, hEq.symm⟩
              simp [Waits, hattempt, hne]
            · simp [Waits, Function.update_of_ne hq]
          · have hne : ¬ (q = p ∧ copy.pk = user) := fun hEq => hmine ⟨hEq.1.symm, hEq.2.symm⟩
            intro e he
            cases hrecorded with
            | ignored =>
                obtain rfl := List.mem_singleton.1 he
                exact ⟨by simp, by simpa [LockoutEvent.records] using hne⟩
            | counted =>
                obtain rfl := List.mem_singleton.1 he
                exact ⟨by simp, by simpa [LockoutEvent.records] using hne⟩
            | lockedOut =>
                rcases List.mem_cons.1 he with rfl | he
                · exact ⟨by simp, by simpa [LockoutEvent.records] using hne⟩
                · obtain rfl := List.mem_singleton.1 he
                  exact ⟨by simp, rfl⟩
      · exact h
    · exact h
  · exact h

theorem step_accounted {p user : Nat} (h : S.Accounted p user) (action : LockoutAction) :
    (S.step env action).Accounted p user := by
  cases action with
  | tick seconds => exact h
  | startLogin q username password => exact startLogin_accounted h q username password
  | verifyLogin q => exact verifyLogin_accounted h q
  | lockFailure q =>
      simp only [step, lockFailure]
      split
      · split
        · exact h
        · exact h
      · exact h
  | recordFailure q => exact recordFailure_accounted h q
  | issueToken q =>
      simp only [step, issueToken]
      split
      · -- tokens, notes and resets are no recordings
        exact h.other Iff.rfl rfl fun e he => by
          obtain rfl := List.mem_singleton.1 he
          exact ⟨by simp, rfl⟩
      · exact h
  | noteLogin q => exact h
  | clearFailures q =>
      simp only [step, clearFailures]
      split
      · split
        · exact h.other Iff.rfl rfl fun e he => by
            obtain rfl := List.mem_singleton.1 he
            exact ⟨by simp, rfl⟩
        · exact h
      · exact h
  | lockRecovery user recovery => exact h
  | finishRecovery k =>
      simp only [step, finishRecovery]
      split
      · exact h
      · rename_i op copy hheld
        split
        · refine h.other Iff.rfl rfl fun e he => ?_
          have hreset : e = .reset copy.pk := by
            unfold recoveryEvents at he
            split at he
            · cases he
            · split at he
              · split at he
                · exact List.mem_singleton.1 he
                · cases he
              · cases he
          subst hreset
          exact ⟨by simp, rfl⟩
        · exact h

theorem FailuresCounted.step {before : Table Users} (h : S.FailuresCounted before)
    (action : LockoutAction) : (S.step env action).FailuresCounted before := by
  obtain ⟨events, hlog, htally, hignored, hfew⟩ := (step_effect env S action).tallied
  refine
    { recorded := fun p user => step_accounted (h.recorded p user) action
      ignored := ?_
      tallied := ?_
      few := fun hbefore => hfew (h.few hbefore) }
  · intro p user deadline now hmem
    rw [hlog] at hmem
    rcases List.mem_append.1 hmem with hold | hnew
    · exact h.ignored p user deadline now hold
    · exact hignored p user deadline now hnew
  · intro user
    rw [htally user, hlog]
    have hEq := congrArg (Option.map fun n => events.foldl (LockoutEvent.tally user) n)
      (h.tallied user)
    rw [Option.map_map, Option.map_map] at hEq
    refine hEq.trans ?_
    simp only [List.foldl_append]
    rfl

end Counting

end Lockouts

/-! ## Runs -/

section Runs

variable (env : AccountSettings) (now : Int) (users : Table Users) (sessions : Table LoginSession)
  (challenges : Challenges)

/-- The accounts before anybody signs in. -/
def idleLogins : Lockouts := .init (.init now users sessions challenges)

variable {env}

theorem run_guarded {S : Lockouts} (h : Lockouts.Guarded env S) :
    ∀ actions, S.AllSpare env actions → Lockouts.Guarded env (S.run env actions) := by
  intro actions
  induction actions generalizing S with
  | nil => exact fun _ => h
  | cons action actions ih =>
      rintro ⟨hspares, hrest⟩
      exact ih (h.step hspares) hrest

theorem run_counted {before : Table Users} {S : Lockouts} (h : S.FailuresCounted before) :
    ∀ actions, (S.run env actions).FailuresCounted before := by
  intro actions
  induction actions generalizing S with
  | nil => exact h
  | cons action actions ih => exact ih (h.step action)

variable (env)

/-- Failures are counted in every run, and lockouts hold in every run that commits none while a login
that will succeed is under way. -/
theorem lockout_holds (actions : List LockoutAction) :
    ((idleLogins now users sessions challenges).run env actions).FailuresCounted users ∧
      ((idleLogins now users sessions challenges).AllSpare env actions →
        LockoutsHold ((idleLogins now users sessions challenges).run env actions).log) := by
  constructor
  · refine run_counted ?_ actions
    exact
      { recorded := fun p user => rfl
        ignored := fun p user deadline now hmem => by cases hmem
        tallied := fun user => rfl
        few := fun hbefore => hbefore }
  · intro hspare
    refine (run_guarded ?_ actions hspare).respected
    exact
      { inFlight := fun p user hflight => hflight.elim
        respected := fun pre post user deadline hlog => by simp [idleLogins, Lockouts.init] at hlog
        standing := fun pre post user deadline hlog => by simp [idleLogins, Lockouts.init] at hlog }

end Runs

/-- An account after four wrong passwords. -/
def fourFailures : Table Users :=
  Table.empty.create fun pk =>
    { account .staff pk with
      password := "secret"
      failedLoginAttempts := 4 }

/-- Login 1 finds the account open, login 2 records the fifth failure, and login 1 goes on. -/
def outrun : List LockoutAction :=
  [.startLogin 1 "" "secret", .startLogin 2 "" "guess", .verifyLogin 2, .lockFailure 2,
    .recordFailure 2, .verifyLogin 1, .issueToken 1, .noteLogin 1, .clearFailures 1]

/-- Login 2 records the fifth failure alone, login 1 is refused during the lockout, and login 3 signs in
after it. -/
def waitedOut : List LockoutAction :=
  [.startLogin 2 "" "guess", .verifyLogin 2, .lockFailure 2, .recordFailure 2,
    .startLogin 1 "" "secret", .verifyLogin 1, .tick 900, .startLogin 3 "" "secret", .verifyLogin 3,
    .issueToken 3, .noteLogin 3, .clearFailures 3]

-- no login that will succeed is under way when the account is locked out, and the lockout is kept
example :
    let S := idleLogins 0 fourFailures Table.empty
      { resets := fun _ => none, emailChanges := fun _ => none }
    S.AllSpare .plain waitedOut ∧ (S.run .plain waitedOut).log =
      [.rejected 2 1, .counted 2 1, .lockedOut 1 900, .issued 3 1 900, .cleared 3 1 900] := by
  intro S
  have hspares : (S.run .plain (waitedOut.take 3)).Spares .plain (.recordFailure 2) := by
    have hlogins : (S.run .plain (waitedOut.take 3)).signIns.logins =
        Function.update (Function.update (fun _ => none) 2 (some (.named ""))) 2 none := rfl
    rintro user row - - - - - q hflight
    have hnone : (S.run .plain (waitedOut.take 3)).signIns.logins q = none := by
      rw [hlogins, Function.update_idem, Function.update_eq_self_iff.2 rfl]
    rw [Lockouts.InFlight, hnone] at hflight
    exact hflight
  exact ⟨⟨trivial, trivial, trivial, hspares, trivial, trivial, trivial, trivial, trivial, trivial,
    trivial, trivial, trivial⟩, by decide +kernel⟩

/-- The account is locked out and opened again in the same instant. -/
theorem lockout_outrun :
    ¬ ∀ (env : AccountSettings) (now : Int) (users : Table Users) (sessions : Table LoginSession)
      (challenges : Challenges) (actions : List LockoutAction),
      LockoutsHold ((idleLogins now users sessions challenges).run env actions).log := by
  intro h
  have hlog : ((idleLogins 0 fourFailures Table.empty
      { resets := fun _ => none, emailChanges := fun _ => none }).run .plain outrun).log =
        [.rejected 2 1, .counted 2 1, .lockedOut 1 900, .issued 1 1 0, .cleared 1 1 0] := by
    rfl
  have hholds := h .plain 0 fourFailures Table.empty
    { resets := fun _ => none, emailChanges := fun _ => none } outrun
  rw [hlog] at hholds
  refine hholds [.rejected 2 1, .counted 2 1] [.issued 1 1 0, .cleared 1 1 0] 1 900 rfl
    (.issued 1 1 0) ?_ ?_
  · decide
  · exact ⟨rfl, by decide⟩

end Accounts
end RosarioDairy
