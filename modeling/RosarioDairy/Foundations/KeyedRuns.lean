import RosarioDairy.Foundations.KeyedCalls

/-!
# KeyedRuns — what every run of a keyed service keeps

Whatever the order of the phases of any number of calls, and wherever they fail: no key is
completed twice, every reply agrees with the records, and under locks nobody works on a key that is
recorded.  A call that runs alone is served the way the service serves one request.
-/

namespace RosarioDairy
namespace Foundations
namespace KeyedService

variable {σ ι κ φ ρ ε β θ : Type} [DecidableEq φ] [DecidableEq θ]
variable {K : KeyedService σ ι κ φ ρ ε β θ}

/-! ## Records and the log -/

variable (K)

/-- The records are those of the store the service started from and those of the log, one for each
key. -/
structure Recorded (s₀ : σ) (S : Serving σ ι ρ ε θ) : Prop where
  initial : ∀ k v, K.recorded s₀ k = some v → K.recorded S.store k = some v
  logged : ∀ c ∈ S.log, K.recorded s₀ (K.key c.request) = none ∧
    K.recorded S.store (K.key c.request) = some (K.print c.request, c.result)
  once : (S.log.map (fun c => K.key c.request)).Nodup

variable {K}

omit [DecidableEq φ] [DecidableEq θ] in
theorem Recorded.init (s₀ : σ) : K.Recorded s₀ (Serving.init s₀ : Serving σ ι ρ ε θ) :=
  { initial := fun _ _ h => h
    logged := by simp [Serving.init]
    once := by simp [Serving.init] }

theorem Recorded.move {s₀ : σ} {S S' : Serving σ ι ρ ε θ} {p : Nat} (hS : K.Recorded s₀ S)
    (h : K.Move S p S') : K.Recorded s₀ S' := by
  have hkept : ∀ k v, K.recorded S.store k = some v → K.recorded S'.store k = some v :=
    fun _ _ hk => h.recorded hk
  -- either the store stays, or one call does its work and is logged
  rcases h.store_cases with ⟨hstore, hlog, _⟩ | ⟨now, r, res, hcall, hwork, _, hlog⟩
  · -- a move that leaves the store: nothing is logged either
    refine
      { initial := fun k v hk => hkept k v (hS.initial k v hk)
        logged := ?_
        once := ?_ }
    · rw [hlog, hstore]
      exact hS.logged
    · rw [hlog]
      exact hS.once
  · -- the key was free in the store, so it is new in the log as well
    have hunrecorded := K.work_unrecorded hwork
    refine
      { initial := fun k v hk => hkept k v (hS.initial k v hk)
        logged := ?_
        once := ?_ }
    · rw [hlog]
      intro c hc
      rcases List.mem_append.1 hc with hold | hnew
      · exact ⟨(hS.logged c hold).1, hkept _ _ (hS.logged c hold).2⟩
      · have hEq : c = { caller := p, request := r, result := res } := by simpa using hnew
        subst hEq
        refine ⟨?_, (K.recorded_work hwork).1⟩
        cases hfirst : K.recorded s₀ (K.key r) with
        | none => rfl
        | some v =>
            rw [hS.initial _ v hfirst] at hunrecorded
            cases hunrecorded
    · -- the new key differs from every key logged before
      rw [hlog, List.map_append, List.nodup_append]
      refine ⟨hS.once, by simp, ?_⟩
      intro k hk k' hk' hEq
      subst hEq
      have hkey : k = K.key r := by simpa using hk'
      rcases List.mem_map.1 hk with ⟨c, hc, hck⟩
      have hlogged := (hS.logged c hc).2
      rw [hck, hkey, hunrecorded] at hlogged
      cases hlogged

/-! ## Replies -/

/-- A finished call does not move. -/
theorem Move.finished {S S' : Serving σ ι ρ ε θ} {p : Nat} {r : ι} {reply : Reply ρ ε}
    (h : K.Move S p S') (hp : S.calls p = some (r, .finished reply)) : S' = S := by
  cases h with
  | idle => rfl
  | start r' hnew => simp [hnew] at hp
  | enter r' hcall => simp [hcall] at hp
  | lock r' hcall hlocking hfree => simp [hcall] at hp
  | pass r' hcall hlocking => simp [hcall] at hp
  | clear r' hcall hnone => simp [hcall] at hp
  | answered r' phase found hcall hlive hfound =>
      have hEq := hcall.symm.trans hp
      simp only [Option.some.injEq, Prod.mk.injEq] at hEq
      exact absurd hEq.2 (hlive reply)
  | raised r' phase e hcall hlive =>
      have hEq := hcall.symm.trans hp
      simp only [Option.some.injEq, Prod.mk.injEq] at hEq
      exact absurd hEq.2 (hlive reply)
  | undone r' phase e hcall hphase =>
      have hEq := hcall.symm.trans hp
      simp only [Option.some.injEq, Prod.mk.injEq] at hEq
      rw [hEq.2] at hphase
      exact absurd hphase id
  | committed now r' s' res hcall hwork => simp [hcall] at hp

variable (K)

/-- Every reply says what is in the log and in the records. -/
structure Answered (S : Serving σ ι ρ ε θ) : Prop where
  created : ∀ p r res, S.calls p = some (r, .finished (.created res)) ↔
    { caller := p, request := r, result := res } ∈ S.log
  replayed : ∀ p r res, S.calls p = some (r, .finished (.replayed res)) →
    K.recorded S.store (K.key r) = some (K.print r, res)
  conflict : ∀ p r, S.calls p = some (r, .finished .conflict) →
    ∃ found, K.recorded S.store (K.key r) = some found ∧ found.1 ≠ K.print r

variable {K}

omit [DecidableEq φ] [DecidableEq θ] in
theorem Answered.init (s₀ : σ) : K.Answered (Serving.init s₀ : Serving σ ι ρ ε θ) :=
  { created := by simp [Serving.init]
    replayed := by simp [Serving.init]
    conflict := by simp [Serving.init] }

/-- A reply from the records is read off them. -/
theorem Move.replied {S S' : Serving σ ι ρ ε θ} {p : Nat} (h : K.Move S p S') {r : ι}
    {reply : Reply ρ ε} (hp : S'.calls p = some (r, .finished reply)) :
    S' = S ∨ (∃ found, K.recorded S.store (K.key r) = some found ∧ reply = K.answer r found) ∨
      (∃ e, reply = .raised e) ∨ ∃ res, reply = .created res := by
  cases h with
  | idle => exact .inl rfl
  | start r' hnew => simp [Serving.calls_setCall] at hp
  | enter r' hcall => simp [Serving.calls_setCall] at hp
  | lock r' hcall hlocking hfree => simp [Serving.calls_setCall] at hp
  | pass r' hcall hlocking => simp [Serving.calls_setCall] at hp
  | clear r' hcall hnone => simp [Serving.calls_setCall] at hp
  | answered r' phase found hcall hlive hfound =>
      simp only [Serving.finish, Serving.calls_setCall, if_true, Option.some.injEq, Prod.mk.injEq,
        Phase.finished.injEq] at hp
      rcases hp with ⟨rfl, rfl⟩
      exact .inr (.inl ⟨found, hfound, rfl⟩)
  | raised r' phase e hcall hlive =>
      simp only [Serving.finish, Serving.calls_setCall, if_true, Option.some.injEq, Prod.mk.injEq,
        Phase.finished.injEq] at hp
      exact .inr (.inr (.inl ⟨e, hp.2.symm⟩))
  | undone r' phase e hcall hphase => simp [Serving.calls_setCall] at hp
  | committed now r' s' res hcall hwork =>
      simp only [Serving.finish, Serving.calls_setCall, if_true, Option.some.injEq, Prod.mk.injEq,
        Phase.finished.injEq] at hp
      exact .inr (.inr (.inr ⟨res, hp.2.symm⟩))

omit [DecidableEq θ] in
theorem answer_eq_replayed {r : ι} {found : φ × ρ} {res : ρ}
    (h : K.answer r found = .replayed res) : found = (K.print r, res) := by
  unfold answer at h
  split at h
  · rename_i hprint
    cases h
    exact Prod.ext hprint rfl
  · cases h

omit [DecidableEq θ] in
theorem answer_eq_conflict {r : ι} {found : φ × ρ} (h : K.answer r found = .conflict) :
    found.1 ≠ K.print r := by
  unfold answer at h
  split at h
  · cases h
  · assumption

theorem Answered.move {S S' : Serving σ ι ρ ε θ} {p : Nat} (hS : K.Answered S)
    (h : K.Move S p S') : K.Answered S' := by
  have hkept : ∀ k v, K.recorded S.store k = some v → K.recorded S'.store k = some v :=
    fun _ _ hk => h.recorded hk
  refine
    { created := ?_
      replayed := ?_
      conflict := ?_ }
  · intro q r res
    rcases h.store_cases with ⟨_, hlog, hback⟩ | ⟨now, r', res', hcall, _, hdone, hlog⟩
    · rw [hlog, ← hS.created q r res]
      -- the other callers' phases stay; this caller's reply is read from its move
      by_cases hq : q = p
      · subst hq
        exact ⟨hback r res, fun hp => by rw [h.finished hp]; exact hp⟩
      · rw [h.calls_other hq]
    · rw [hlog, List.mem_append, ← hS.created q r res]
      by_cases hq : q = p
      · subst hq
        rw [hdone, hcall]
        simp [eq_comm]
      · rw [h.calls_other hq]
        simp [hq]
  · intro q r res hq
    by_cases hqp : q = p
    · subst hqp
      rcases h.replied hq with rfl | ⟨found, hfound, hreply⟩ | ⟨e, he⟩ | ⟨res', hres'⟩
      · exact hS.replayed q r res hq
      · rw [answer_eq_replayed hreply.symm] at hfound
        exact hkept _ _ hfound
      · cases he
      · cases hres'
    · rw [h.calls_other hqp] at hq
      exact hkept _ _ (hS.replayed q r res hq)
  · intro q r hq
    by_cases hqp : q = p
    · subst hqp
      -- a conflict is answered from what is recorded under the key, and that stays
      rcases h.replied hq with rfl | ⟨found, hfound, hreply⟩ | ⟨e, he⟩ | ⟨res', hres'⟩
      · exact hS.conflict q r hq
      · exact ⟨found, hkept _ _ hfound, answer_eq_conflict hreply.symm⟩
      · cases he
      · cases hres'
    · rw [h.calls_other hqp] at hq
      rcases hS.conflict q r hq with ⟨found, hfound, hne⟩
      exact ⟨found, hkept _ _ hfound, hne⟩

/-! ## Locks -/

variable (K)

/-- A lock is held by the call inside the transaction of its key, and while a call works on a key
nothing is recorded under it. -/
structure Locked (S : Serving σ ι ρ ε θ) : Prop where
  held : ∀ l p, S.holder l = some p → ∃ r phase, S.calls p = some (r, phase) ∧
    K.lockOf (K.key r) = l ∧ (phase = .entered ∨ phase = .fresh)
  holds : ∀ p r phase, S.calls p = some (r, phase) → phase = .entered ∨ phase = .fresh →
    S.holder (K.lockOf (K.key r)) = some p
  fresh : ∀ p r, S.calls p = some (r, .fresh) → K.recorded S.store (K.key r) = none

variable {K}

omit [DecidableEq φ] [DecidableEq θ] in
theorem Locked.init (s₀ : σ) : K.Locked (Serving.init s₀ : Serving σ ι ρ ε θ) :=
  { held := by simp [Serving.init]
    holds := by simp [Serving.init]
    fresh := by simp [Serving.init] }

omit [DecidableEq φ] [DecidableEq θ] in
/-- A call that is not past its lock holds none. -/
theorem Locked.not_held {S : Serving σ ι ρ ε θ} (hS : K.Locked S) {p : Nat}
    (hp : ∀ r phase, S.calls p = some (r, phase) → phase ≠ .entered ∧ phase ≠ .fresh) (l : θ) :
    S.holder l ≠ some p := by
  intro hholder
  rcases hS.held l p hholder with ⟨r, phase, hcall, _, hphase⟩
  rcases hp r phase hcall with ⟨hentered, hfresh⟩
  rcases hphase with h | h
  · exact hentered h
  · exact hfresh h

omit [DecidableEq φ] [DecidableEq θ] in
/-- A call that leaves its transaction, or has not passed its lock, leaves the others theirs. -/
theorem Locked.leave {S S' : Serving σ ι ρ ε θ} (hS : K.Locked S) {p : Nat}
    (hcalls : ∀ q, q ≠ p → S'.calls q = S.calls q)
    (hp : ∀ r phase, S'.calls p = some (r, phase) → phase ≠ .entered ∧ phase ≠ .fresh)
    (hholder : ∀ l q, S'.holder l = some q ↔ S.holder l = some q ∧ q ≠ p)
    (hfresh : ∀ q r, q ≠ p → S.calls q = some (r, .fresh) →
      K.recorded S'.store (K.key r) = none) : K.Locked S' := by
  have hother : ∀ {q r phase}, S'.calls q = some (r, phase) → phase = .entered ∨ phase = .fresh →
      q ≠ p := by
    rintro q r phase hcall hphase rfl
    rcases hp r phase hcall with ⟨hentered, hnot⟩
    rcases hphase with h | h
    · exact hentered h
    · exact hnot h
  refine
    { held := ?_
      holds := ?_
      fresh := ?_ }
  · intro l q hq
    rcases (hholder l q).1 hq with ⟨hold, hne⟩
    rw [hcalls q hne]
    exact hS.held l q hold
  · intro q r phase hcall hphase
    have hne := hother hcall hphase
    rw [hcalls q hne] at hcall
    exact (hholder _ q).2 ⟨hS.holds q r phase hcall hphase, hne⟩
  · intro q r hcall
    have hne := hother hcall (.inr rfl)
    rw [hcalls q hne] at hcall
    exact hfresh q r hne hcall

omit [DecidableEq φ] [DecidableEq θ] in
/-- Two calls past their locks work on different keys. -/
theorem Locked.key_ne {S : Serving σ ι ρ ε θ} (hS : K.Locked S) {p q : Nat} {r r' : ι}
    (hp : S.calls p = some (r, .fresh)) (hq : S.calls q = some (r', .fresh)) (hne : q ≠ p) :
    K.key r' ≠ K.key r := by
  intro hkey
  have hholder := hS.holds p r .fresh hp (.inr rfl)
  have hholder' := hS.holds q r' .fresh hq (.inr rfl)
  rw [hkey, hholder] at hholder'
  exact hne (Option.some.inj hholder').symm

omit [DecidableEq θ] in
theorem holder_release (S : Serving σ ι ρ ε θ) (p : Nat) (l : θ) (q : Nat) :
    (S.release p).holder l = some q ↔ S.holder l = some q ∧ q ≠ p := by
  simp only [Serving.release]
  split
  · rename_i h
    rw [h]
    simp [eq_comm]
  · rename_i h
    constructor
    · intro hq
      exact ⟨hq, fun hEq => h (hEq ▸ hq)⟩
    · exact And.left

theorem Locked.move {S S' : Serving σ ι ρ ε θ} {p : Nat} (hlocking : K.locking = true)
    (hS : K.Locked S) (h : K.Move S p S') : K.Locked S' := by
  have hothers : ∀ q, q ≠ p → S'.calls q = S.calls q := fun q hq => h.calls_other hq
  -- an unlocked call changes its phase only
  have hstays : (∀ r phase, S.calls p = some (r, phase) → phase ≠ .entered ∧ phase ≠ .fresh) →
      S'.holder = S.holder → ∀ l q, S'.holder l = some q ↔ S.holder l = some q ∧ q ≠ p := by
    intro hp hsame l q
    rw [hsame]
    refine ⟨fun hq => ⟨hq, ?_⟩, And.left⟩
    rintro rfl
    exact hS.not_held hp l hq
  cases h with
  | idle => exact hS
  | start r hnew =>
      refine hS.leave hothers ?_ (hstays ?_ rfl) (fun q r _ hq => hS.fresh q r hq)
      · simp [Serving.calls_setCall]
      · simp [hnew]
  | enter r hcall =>
      refine hS.leave hothers ?_ (hstays ?_ rfl) (fun q r _ hq => hS.fresh q r hq)
      · simp [Serving.calls_setCall]
      · simp [hcall]
  | lock r hcall _ hfree =>
      refine
        { held := ?_
          holds := ?_
          fresh := ?_ }
      · intro l q hq
        simp only [Function.update_apply] at hq
        split at hq
        · rename_i hl
          cases hq
          exact ⟨r, .entered, by simp [Serving.calls_setCall], hl.symm, .inl rfl⟩
        · have hne : q ≠ p := by
            rintro rfl
            exact hS.not_held (by simp [hcall]) l hq
          rw [hothers q hne]
          exact hS.held l q hq
      · intro q r' phase hq hphase
        simp only [Function.update_apply]
        by_cases hqp : q = p
        · subst hqp
          simp only [Serving.calls_setCall, if_true, Option.some.injEq, Prod.mk.injEq] at hq
          simp [hq.1]
        · rw [hothers q hqp] at hq
          have hholder := hS.holds q r' phase hq hphase
          have hne : K.lockOf (K.key r') ≠ K.lockOf (K.key r) := by
            intro hl
            rw [hl, hfree] at hholder
            cases hholder
          rw [if_neg hne]
          exact hholder
      · intro q r' hq
        by_cases hqp : q = p
        · subst hqp
          simp [Serving.calls_setCall] at hq
        · rw [hothers q hqp] at hq
          exact hS.fresh q r' hq
  | pass r hcall hunlocked => simp [hlocking] at hunlocked
  | clear r hcall hnone =>
      refine
        { held := ?_
          holds := ?_
          fresh := ?_ }
      · intro l q hq
        by_cases hqp : q = p
        · subst hqp
          rcases hS.held l q hq with ⟨r', phase, hcall', hl, _⟩
          have hEq := hcall.symm.trans hcall'
          simp only [Option.some.injEq, Prod.mk.injEq] at hEq
          exact ⟨r, .fresh, by simp [Serving.calls_setCall], hEq.1 ▸ hl, .inr rfl⟩
        · rw [hothers q hqp]
          exact hS.held l q hq
      · intro q r' phase hq hphase
        by_cases hqp : q = p
        · subst hqp
          simp only [Serving.calls_setCall, if_true, Option.some.injEq, Prod.mk.injEq] at hq
          rw [← hq.1]
          exact hS.holds q r .entered hcall (.inl rfl)
        · rw [hothers q hqp] at hq
          exact hS.holds q r' phase hq hphase
      · intro q r' hq
        by_cases hqp : q = p
        · subst hqp
          simp only [Serving.calls_setCall, if_true, Option.some.injEq, Prod.mk.injEq] at hq
          rw [← hq.1]
          exact hnone
        · rw [hothers q hqp] at hq
          exact hS.fresh q r' hq
  | answered r phase found hcall hlive hfound =>
      refine hS.leave hothers ?_ (holder_release S p) (fun q r _ hq => hS.fresh q r hq)
      simp [Serving.finish, Serving.calls_setCall]
  | raised r phase e hcall hlive =>
      refine hS.leave hothers ?_ (holder_release S p) (fun q r _ hq => hS.fresh q r hq)
      simp [Serving.finish, Serving.calls_setCall]
  | undone r phase e hcall hphase =>
      refine hS.leave hothers ?_ (holder_release S p) (fun q r _ hq => hS.fresh q r hq)
      simp [Serving.calls_setCall]
  | committed now r s' res hcall hwork =>
      refine hS.leave hothers ?_ (holder_release S p) ?_
      · simp [Serving.finish, Serving.calls_setCall]
      · intro q r' hqp hq
        have hkey := hS.key_ne hcall hq hqp
        rw [(K.recorded_work hwork).2 _ hkey]
        exact hS.fresh q r' hq

/-! ## Runs -/

variable (K)

/-- What holds in every state a service reaches from the store `s₀`. -/
structure Sound (s₀ : σ) (S : Serving σ ι ρ ε θ) : Prop where
  records : K.Recorded s₀ S
  replies : K.Answered S
  locks : K.locking = true → K.Locked S

variable {K}

omit [DecidableEq φ] [DecidableEq θ] in
theorem Sound.background {s₀ : σ} {S : Serving σ ι ρ ε θ} (hS : K.Sound s₀ S) (b : β) :
    K.Sound s₀ { S with store := K.background b S.store } := by
  refine
    { records :=
        { initial := fun k v hk => ?_
          logged := fun c hc => ?_
          once := hS.records.once }
      replies :=
        { created := hS.replies.created
          replayed := fun p r res hp => ?_
          conflict := fun p r hp => ?_ }
      locks := fun hlocking =>
        { held := (hS.locks hlocking).held
          holds := (hS.locks hlocking).holds
          fresh := fun p r hp => ?_ } }
  · rw [K.recorded_background]
    exact hS.records.initial k v hk
  · rw [K.recorded_background]
    exact hS.records.logged c hc
  · rw [K.recorded_background]
    exact hS.replies.replayed p r res hp
  · rw [K.recorded_background]
    exact hS.replies.conflict p r hp
  · rw [K.recorded_background]
    exact (hS.locks hlocking).fresh p r hp

/-- Every action keeps the service sound. -/
theorem Sound.step {s₀ : σ} {S : Serving σ ι ρ ε θ} (hS : K.Sound s₀ S) (a : CallAction ι ε β) :
    K.Sound s₀ (K.step S a) := by
  cases hcaller : a.caller with
  | none =>
      cases a with
      | other b => exact hS.background b
      | _ => cases hcaller
  | some p =>
      have hmove := step_move (K := K) S hcaller
      exact
        { records := hS.records.move hmove
          replies := hS.replies.move hmove
          locks := fun hlocking => (hS.locks hlocking).move hlocking hmove }

/-- Whatever the order of their phases and failures, the calls of a service stay sound. -/
theorem run_sound (s₀ : σ) (actions : List (CallAction ι ε β)) :
    K.Sound s₀ (K.run (Serving.init s₀) actions) :=
  runAll_preserves (fun _ a hS => hS.step a) actions
    { records := Recorded.init s₀
      replies := Answered.init s₀
      locks := fun _ => Locked.init s₀ }

/-! ## What a caller can rely on -/

theorem run_append (S : Serving σ ι ρ ε θ) (first later : List (CallAction ι ε β)) :
    K.run S (first ++ later) = K.run (K.run S first) later :=
  runAll_append K.step S first later

theorem step_recorded {S : Serving σ ι ρ ε θ} {k : κ} {v : φ × ρ} (a : CallAction ι ε β)
    (hk : K.recorded S.store k = some v) : K.recorded (K.step S a).store k = some v := by
  cases hcaller : a.caller with
  | none =>
      cases a with
      | other b => exact (K.recorded_background b S.store k).trans hk
      | _ => cases hcaller
  | some p => exact (step_move (K := K) S hcaller).recorded hk

/-- What is recorded stays recorded. -/
theorem run_recorded {S : Serving σ ι ρ ε θ} {k : κ} {v : φ × ρ}
    (actions : List (CallAction ι ε β)) (hk : K.recorded S.store k = some v) :
    K.recorded (K.run S actions).store k = some v :=
  runAll_preserves (P := fun T : Serving σ ι ρ ε θ => K.recorded T.store k = some v)
    (fun _ a hT => step_recorded a hT) actions hk

/-- The actions of a call whose key is recorded change the store no more. -/
theorem recorded_step_store {S : Serving σ ι ρ ε θ} {p : Nat} {r : ι} {phase : Phase ρ ε}
    {found : φ × ρ} (hcall : S.calls p = some (r, phase))
    (hfound : K.recorded S.store (K.key r) = some found) {a : CallAction ι ε β}
    (ha : a.caller = some p) : (K.step S a).store = S.store := by
  rcases (step_move (K := K) S ha).store_cases with ⟨hstore, _⟩ | ⟨_, r', _, hfresh, hwork, _⟩
  · exact hstore
  · have hEq := hcall.symm.trans hfresh
    simp only [Option.some.injEq, Prod.mk.injEq] at hEq
    rw [hEq.1, K.work_unrecorded hwork] at hfound
    cases hfound

/-- A call inside its transaction whose key is recorded is answered by its next look-up. -/
theorem look_recorded {S : Serving σ ι ρ ε θ} {p : Nat} {r : ι} {found : φ × ρ}
    (hcall : S.calls p = some (r, .entered))
    (hfound : K.recorded S.store (K.key r) = some found) :
    (K.step S (.look p)).calls p = some (r, .finished (K.answer r found)) := by
  simp [KeyedService.step, look, hcall, hfound, Serving.finish, Serving.calls_setCall]

omit [DecidableEq φ] [DecidableEq θ] in
/-- Under locks nobody works on a key that is recorded. -/
theorem Sound.not_fresh {s₀ : σ} {S : Serving σ ι ρ ε θ} (hS : K.Sound s₀ S)
    (hlocking : K.locking = true) {p : Nat} {r : ι} {phase : Phase ρ ε} {found : φ × ρ}
    (hcall : S.calls p = some (r, phase)) (hfound : K.recorded S.store (K.key r) = some found) :
    phase ≠ .fresh := by
  rintro rfl
  rw [(hS.locks hlocking).fresh p r hcall] at hfound
  cases hfound

omit [DecidableEq θ] in
/-- A finished call has made the record of its key itself, or was answered from it, or failed. -/
theorem Sound.reply_cases {s₀ : σ} {S : Serving σ ι ρ ε θ} (hS : K.Sound s₀ S) {p : Nat} {r : ι}
    {reply : Reply ρ ε} {found : φ × ρ} (hcall : S.calls p = some (r, .finished reply))
    (hfound : K.recorded S.store (K.key r) = some found) :
    (reply = .created found.2 ∧ found.1 = K.print r) ∨ reply = K.answer r found ∨
      ∃ e, reply = .raised e := by
  cases reply with
  | created res =>
      have hlogged := (hS.records.logged _ ((hS.replies.created p r res).1 hcall)).2
      rw [hfound] at hlogged
      cases hlogged
      exact .inl ⟨rfl, rfl⟩
  | replayed res =>
      have hrecorded := hS.replies.replayed p r res hcall
      rw [hfound] at hrecorded
      cases hrecorded
      exact .inr (.inl (by simp [answer]))
  | conflict =>
      rcases hS.replies.conflict p r hcall with ⟨found', hfound', hne⟩
      rw [hfound] at hfound'
      cases hfound'
      exact .inr (.inl (by simp [answer, hne]))
  | raised e => exact .inr (.inr ⟨e, rfl⟩)

/-- An action of a call that does not complete it by working leaves the store alone. -/
theorem step_store {S : Serving σ ι ρ ε θ} {a : CallAction ι ε β} {p : Nat}
    (ha : a.caller = some p)
    (hnot : ∀ r res, (K.step S a).calls p ≠ some (r, .finished (.created res))) :
    (K.step S a).store = S.store := by
  rcases (step_move (K := K) S ha).store_cases with ⟨hstore, _⟩ | ⟨_, r, res, _, _, hdone, _⟩
  · exact hstore
  · exact absurd hdone (hnot r res)

omit [DecidableEq φ] [DecidableEq θ] in
/-- A call outside its transaction holds no lock. -/
theorem Sound.unlocked {s₀ : σ} {S : Serving σ ι ρ ε θ} (hS : K.Sound s₀ S)
    (hlocking : K.locking = true) {p : Nat} {r : ι} {phase : Phase ρ ε}
    (hcall : S.calls p = some (r, phase)) (hphase : phase ≠ .entered ∧ phase ≠ .fresh) (l : θ) :
    S.holder l ≠ some p := by
  refine (hS.locks hlocking).not_held ?_ l
  intro r' phase' hcall'
  have hEq := hcall.symm.trans hcall'
  simp only [Option.some.injEq, Prod.mk.injEq] at hEq
  exact hEq.2 ▸ hphase

variable (K)

/-- A call run from its first phase to its last, with nothing in between. -/
def alone (p : Nat) (r : ι) (now : Int) : List (CallAction ι ε β) :=
  [.start p r, .lookAhead p, .lock p, .look p, .commit p now, .lookBack p]

/-- A request served without concurrent calls. -/
def serve (now : Int) (r : ι) (s : σ) : σ × Reply ρ ε :=
  match K.recorded s (K.key r) with
  | some found => (s, K.answer r found)
  | none =>
      match K.work now r s with
      | .ok (s', res) => (s', .created res)
      | .error e => (s, .raised e)

variable {K}

/-- A new call gets past its lock when the lock is free and no early look-up answers it. -/
theorem run_entered {S : Serving σ ι ρ ε θ} {p : Nat} {r : ι} (hnew : S.calls p = none)
    (hfree : S.holder (K.lockOf (K.key r)) = none)
    (hgoes : K.early = true → K.recorded S.store (K.key r) = none) :
    (K.run S [.start p r, .lookAhead p, .lock p]).store = S.store ∧
      (K.run S [.start p r, .lookAhead p, .lock p]).calls p = some (r, .entered) := by
  have hwaiting : K.step (K.step S (.start p r)) (.lookAhead p) = S.setCall p r .waiting := by
    cases hearly : K.early with
    | false => simp [KeyedService.step, hnew, hearly, Serving.setCall]
    | true => simp [KeyedService.step, hnew, hearly, look, hgoes hearly, Serving.setCall]
  simp only [run, runAll_cons, runAll_nil, hwaiting]
  cases hlocking : K.locking with
  | false => simp [KeyedService.step, lock, hlocking, Serving.setCall]
  | true => simp [KeyedService.step, lock, hlocking, hfree, Serving.setCall]

/-- A call past its lock that goes on without interruption is served. -/
theorem run_served {S : Serving σ ι ρ ε θ} {p : Nat} {r : ι} (now : Int)
    (hcall : S.calls p = some (r, .entered)) :
    (K.run S [.look p, .commit p now, .lookBack p]).store = (K.serve now r S.store).1 ∧
      (K.run S [.look p, .commit p now, .lookBack p]).calls p =
        some (r, .finished (K.serve now r S.store).2) := by
  cases hfound : K.recorded S.store (K.key r) with
  | some found =>
      simp [run, KeyedService.step, look, serve, hcall, hfound, Serving.finish, Serving.setCall,
        Serving.release]
  | none =>
      cases hwork : K.work now r S.store with
      | ok done =>
          simp [run, KeyedService.step, look, commit, serve, hcall, hfound, hwork, Serving.finish,
            Serving.setCall, Serving.release]
      | error e =>
          cases hretried : K.retried e with
          | true =>
              simp [run, KeyedService.step, look, commit, afterError, serve, hcall, hfound, hwork,
                hretried, Serving.finish, Serving.setCall, Serving.release]
          | false =>
              simp [run, KeyedService.step, look, commit, afterError, serve, hcall, hfound, hwork,
                hretried, Serving.setCall, Serving.release]

/-- A new call run alone, with the lock of its key free, is served. -/
theorem run_alone {S : Serving σ ι ρ ε θ} {p : Nat} {r : ι} (now : Int) (hnew : S.calls p = none)
    (hfree : S.holder (K.lockOf (K.key r)) = none) :
    (K.run S (alone p r now)).store = (K.serve now r S.store).1 ∧
      (K.run S (alone p r now)).calls p = some (r, .finished (K.serve now r S.store).2) := by
  by_cases hgoes : K.early = true → K.recorded S.store (K.key r) = none
  · rcases run_entered hnew hfree hgoes with ⟨hstore, hcall⟩
    have hserved := run_served (K := K) now hcall
    rw [hstore] at hserved
    exact hserved
  · -- the early look-up answers the call and no later phase is due
    rcases Classical.not_imp.1 hgoes with ⟨hearly, hrecorded⟩
    rcases Option.ne_none_iff_exists'.1 hrecorded with ⟨found, hfound⟩
    simp [run, alone, KeyedService.step, look, serve, hnew, hfound, hearly, Serving.finish,
      Serving.setCall, Serving.release]

end KeyedService

end Foundations
end RosarioDairy
