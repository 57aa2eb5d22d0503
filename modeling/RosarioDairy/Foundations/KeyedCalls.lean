import Mathlib.Data.List.Nodup
import Mathlib.Logic.Function.Basic
import RosarioDairy.Foundations.Checked

/-!
# KeyedCalls — concurrent calls that take effect once for each key

A keyed service records every call it completes under the key the caller chose, together with a
fingerprint of the call and its result.  A call looks its key up, works only when nothing is
recorded, and records itself in the same database transaction; a repeated call is answered from the
record.  `step` interleaves the phases of any number of calls: the optional look-up before the
transaction, the lock of the key, the look-up under the lock, the commit and the optional look-up
after a violated constraint.  Any call may fail in any phase, and other writers of the store may run
in between.

The work of a call is evaluated on the committed store of the moment it commits: the rows it reads
are locked until then, and what it wrote before a failure is rolled back unseen.
-/

namespace RosarioDairy
namespace Foundations

/-- How a call ends. -/
inductive Reply (ρ ε : Type)
  | created (result : ρ)
  | replayed (result : ρ)
  | conflict
  | raised (error : ε)
  deriving DecidableEq, Repr

/-- How far a call has come. -/
inductive Phase (ρ ε : Type)
  | started
  | waiting
  | entered
  | fresh
  | undone (error : ε)
  | finished (reply : Reply ρ ε)
  deriving DecidableEq, Repr

/-- A keyed service over stores `σ`: its requests `ι` carry a key and a fingerprint, its records map
keys to the fingerprint and the result of the call that made them, and `work` is the body of a call
with the record it leaves.  `θ` names the locks and `β` the other writers. -/
structure KeyedService (σ ι κ φ ρ ε β θ : Type) where
  key : ι → κ
  print : ι → φ
  lockOf : κ → θ
  recorded : σ → κ → Option (φ × ρ)
  work : Int → ι → σ → Except ε (σ × ρ)
  background : β → σ → σ
  /-- The database has locks on keys. -/
  locking : Bool
  /-- The key is looked up once before the transaction. -/
  early : Bool
  /-- The key is looked up again after an error of this kind. -/
  retried : ε → Bool
  work_unrecorded : ∀ {now r s s' res}, work now r s = .ok (s', res) → recorded s (key r) = none
  recorded_work : ∀ {now r s s' res}, work now r s = .ok (s', res) →
    recorded s' (key r) = some (print r, res) ∧ ∀ k, k ≠ key r → recorded s' k = recorded s k
  recorded_background : ∀ b s k, recorded (background b s) k = recorded s k

/-- A completed call: who made it, the request and its result. -/
structure Completed (ι ρ : Type) where
  caller : Nat
  request : ι
  result : ρ

/-- The committed store, the holders of the locks, the calls so far and, for the record of the
proof only, the calls that were completed by working. -/
structure Serving (σ ι ρ ε θ : Type) where
  store : σ
  holder : θ → Option Nat
  calls : Nat → Option (ι × Phase ρ ε)
  log : List (Completed ι ρ)

namespace Serving

variable {σ ι ρ ε θ : Type}

def init (s : σ) : Serving σ ι ρ ε θ :=
  { store := s
    holder := fun _ => none
    calls := fun _ => none
    log := [] }

def setCall (S : Serving σ ι ρ ε θ) (p : Nat) (r : ι) (phase : Phase ρ ε) : Serving σ ι ρ ε θ :=
  { S with calls := Function.update S.calls p (some (r, phase)) }

/-- The locks of a call are released with its transaction. -/
def release (S : Serving σ ι ρ ε θ) (p : Nat) : Serving σ ι ρ ε θ :=
  { S with holder := fun l => if S.holder l = some p then none else S.holder l }

def finish (S : Serving σ ι ρ ε θ) (p : Nat) (r : ι) (reply : Reply ρ ε) : Serving σ ι ρ ε θ :=
  (S.release p).setCall p r (.finished reply)

theorem calls_setCall (S : Serving σ ι ρ ε θ) (p : Nat) (r : ι) (phase : Phase ρ ε) (q : Nat) :
    (S.setCall p r phase).calls q = if q = p then some (r, phase) else S.calls q := by
  simp [setCall, Function.update_apply]

end Serving

/-- One phase of one call, a failure, or another writer. -/
inductive CallAction (ι ε β : Type)
  | start (p : Nat) (r : ι)
  | lookAhead (p : Nat)
  | lock (p : Nat)
  | look (p : Nat)
  | commit (p : Nat) (now : Int)
  | lookBack (p : Nat)
  | fail (p : Nat) (error : ε)
  | other (b : β)

/-- The call an action belongs to. -/
def CallAction.caller {ι ε β : Type} : CallAction ι ε β → Option Nat
  | .start p _ => some p
  | .lookAhead p => some p
  | .lock p => some p
  | .look p => some p
  | .commit p _ => some p
  | .lookBack p => some p
  | .fail p _ => some p
  | .other _ => none

namespace KeyedService

variable {σ ι κ φ ρ ε β θ : Type} [DecidableEq φ] [DecidableEq θ]
variable (K : KeyedService σ ι κ φ ρ ε β θ)

/-- The answer to a request whose key is recorded. -/
def answer (r : ι) (found : φ × ρ) : Reply ρ ε :=
  if found.1 = K.print r then .replayed found.2 else .conflict

/-- The phase an error leaves a call in that has begun its transaction. -/
def afterError (e : ε) : Phase ρ ε :=
  if K.retried e then .undone e else .finished (.raised e)

/-- A call whose key is recorded is answered; otherwise it goes on. -/
def look (S : Serving σ ι ρ ε θ) (p : Nat) (r : ι) (next : Serving σ ι ρ ε θ) :
    Serving σ ι ρ ε θ :=
  match K.recorded S.store (K.key r) with
  | some found => S.finish p r (K.answer r found)
  | none => next

/-- A free lock is taken until the end of the transaction; a call waits for a held one. -/
def lock (S : Serving σ ι ρ ε θ) (p : Nat) (r : ι) : Serving σ ι ρ ε θ :=
  if K.locking then
    match S.holder (K.lockOf (K.key r)) with
    | none =>
        { S.setCall p r .entered with
          holder := Function.update S.holder (K.lockOf (K.key r)) (some p) }
    | some _ => S
  else S.setCall p r .entered

def commit (S : Serving σ ι ρ ε θ) (p : Nat) (r : ι) (now : Int) : Serving σ ι ρ ε θ :=
  match K.work now r S.store with
  | .ok (s', res) =>
      { S.finish p r (.created res) with
        store := s'
        log := S.log ++ [{ caller := p, request := r, result := res }] }
  | .error e => (S.release p).setCall p r (K.afterError e)

/-- An error outside the transaction ends the call, an error inside rolls it back first. -/
def fail (S : Serving σ ι ρ ε θ) (p : Nat) (r : ι) (phase : Phase ρ ε) (e : ε) :
    Serving σ ι ρ ε θ :=
  match phase with
  | .finished _ => S
  | .started => S.finish p r (.raised e)
  | .undone _ => S.finish p r (.raised e)
  | _ => (S.release p).setCall p r (K.afterError e)

/-- One action; an action that is not due changes nothing. -/
def step (S : Serving σ ι ρ ε θ) : CallAction ι ε β → Serving σ ι ρ ε θ
  | .start p r =>
      match S.calls p with
      | none => S.setCall p r .started
      | some _ => S
  | .lookAhead p =>
      match S.calls p with
      | some (r, .started) =>
          -- some callers look once before they wait for the lock
          if K.early then K.look S p r (S.setCall p r .waiting) else S.setCall p r .waiting
      | _ => S
  | .lock p =>
      match S.calls p with
      | some (r, .waiting) => K.lock S p r
      | _ => S
  | .look p =>
      match S.calls p with
      | some (r, .entered) => K.look S p r (S.setCall p r .fresh)
      | _ => S
  | .commit p now =>
      match S.calls p with
      | some (r, .fresh) => K.commit S p r now
      | _ => S
  | .lookBack p =>
      -- the commit was refused: look whether another call has recorded the key meanwhile
      match S.calls p with
      | some (r, .undone e) => K.look S p r (S.finish p r (.raised e))
      | _ => S
  | .fail p e =>
      match S.calls p with
      | some (r, phase) => K.fail S p r phase e
      | none => S
  | .other b => { S with store := K.background b S.store }

def run (S : Serving σ ι ρ ε θ) (actions : List (CallAction ι ε β)) : Serving σ ι ρ ε θ :=
  runAll K.step S actions

/-! ## What an action can do -/

/-- The phases of a call that has begun its transaction and not ended it. -/
def InTransaction : Phase ρ ε → Prop
  | .waiting => True
  | .entered => True
  | .fresh => True
  | _ => False

/-- The change an action of the call `p` makes. -/
inductive Move (S : Serving σ ι ρ ε θ) (p : Nat) : Serving σ ι ρ ε θ → Prop
  | idle : Move S p S
  | start (r : ι) (hnew : S.calls p = none) : Move S p (S.setCall p r .started)
  | enter (r : ι) (hcall : S.calls p = some (r, .started)) : Move S p (S.setCall p r .waiting)
  | lock (r : ι) (hcall : S.calls p = some (r, .waiting)) (hlocking : K.locking = true)
      (hfree : S.holder (K.lockOf (K.key r)) = none) :
      Move S p { S.setCall p r .entered with
        holder := Function.update S.holder (K.lockOf (K.key r)) (some p) }
  | pass (r : ι) (hcall : S.calls p = some (r, .waiting)) (hlocking : K.locking = false) :
      Move S p (S.setCall p r .entered)
  | clear (r : ι) (hcall : S.calls p = some (r, .entered))
      (hnone : K.recorded S.store (K.key r) = none) : Move S p (S.setCall p r .fresh)
  | answered (r : ι) (phase : Phase ρ ε) (found : φ × ρ) (hcall : S.calls p = some (r, phase))
      (hlive : ∀ reply, phase ≠ .finished reply)
      (hfound : K.recorded S.store (K.key r) = some found) :
      Move S p (S.finish p r (K.answer r found))
  | raised (r : ι) (phase : Phase ρ ε) (e : ε) (hcall : S.calls p = some (r, phase))
      (hlive : ∀ reply, phase ≠ .finished reply) : Move S p (S.finish p r (.raised e))
  | undone (r : ι) (phase : Phase ρ ε) (e : ε) (hcall : S.calls p = some (r, phase))
      (hphase : InTransaction phase) : Move S p ((S.release p).setCall p r (.undone e))
  | committed (now : Int) (r : ι) (s' : σ) (res : ρ) (hcall : S.calls p = some (r, .fresh))
      (hwork : K.work now r S.store = .ok (s', res)) :
      Move S p { S.finish p r (.created res) with
        store := s'
        log := S.log ++ [{ caller := p, request := r, result := res }] }

variable {K}

/-- An error in the transaction of a call rolls it back. -/
theorem move_afterError {S : Serving σ ι ρ ε θ} {p : Nat} {r : ι} {phase : Phase ρ ε} (e : ε)
    (hcall : S.calls p = some (r, phase)) (hphase : InTransaction phase) :
    K.Move S p ((S.release p).setCall p r (K.afterError e)) := by
  have hlive : ∀ reply, phase ≠ .finished reply := by
    rintro reply rfl
    exact hphase
  unfold afterError
  split
  · exact .undone r phase e hcall hphase
  · exact .raised r phase e hcall hlive

theorem move_look {S : Serving σ ι ρ ε θ} {p : Nat} {r : ι} {phase : Phase ρ ε}
    {next : Serving σ ι ρ ε θ} (hcall : S.calls p = some (r, phase))
    (hlive : ∀ reply, phase ≠ .finished reply)
    (hnext : K.recorded S.store (K.key r) = none → K.Move S p next) :
    K.Move S p (K.look S p r next) := by
  unfold look
  cases hfound : K.recorded S.store (K.key r) with
  | none => exact hnext hfound
  | some found => exact .answered r phase found hcall hlive hfound

theorem move_lock {S : Serving σ ι ρ ε θ} {p : Nat} {r : ι}
    (hcall : S.calls p = some (r, .waiting)) : K.Move S p (K.lock S p r) := by
  unfold lock
  cases hlocking : K.locking with
  | false => exact .pass r hcall hlocking
  | true =>
      rw [if_pos rfl]
      cases hholder : S.holder (K.lockOf (K.key r)) with
      | none => exact .lock r hcall hlocking hholder
      | some q => exact .idle

theorem move_commit {S : Serving σ ι ρ ε θ} {p : Nat} {r : ι} (now : Int)
    (hcall : S.calls p = some (r, .fresh)) : K.Move S p (K.commit S p r now) := by
  unfold commit
  cases hwork : K.work now r S.store with
  | ok done => exact .committed now r done.1 done.2 hcall hwork
  | error e => exact move_afterError e hcall trivial

theorem move_fail {S : Serving σ ι ρ ε θ} {p : Nat} {r : ι} {phase : Phase ρ ε} (e : ε)
    (hcall : S.calls p = some (r, phase)) : K.Move S p (K.fail S p r phase e) := by
  cases phase with
  | started => exact .raised r .started e hcall (fun _ h => by cases h)
  | waiting => exact move_afterError e hcall trivial
  | entered => exact move_afterError e hcall trivial
  | fresh => exact move_afterError e hcall trivial
  | undone e' => exact .raised r (.undone e') e hcall (fun _ h => by cases h)
  | finished reply => exact .idle

/-- Every action of a call is a move of that call. -/
theorem step_move (S : Serving σ ι ρ ε θ) {a : CallAction ι ε β} {p : Nat}
    (ha : a.caller = some p) : K.Move S p (K.step S a) := by
  cases a with
  | start q r =>
      cases ha
      simp only [step]
      cases hcall : S.calls p with
      | none => exact .start r hcall
      | some call => exact .idle
  | lookAhead q =>
      cases ha
      simp only [step]
      split
      · rename_i r hcall
        -- a caller that looks first starts to wait only when it finds nothing
        split
        · exact move_look hcall (fun _ h => by cases h) (fun _ => .enter r hcall)
        · exact .enter r hcall
      · exact .idle
  | lock q =>
      cases ha
      simp only [step]
      split
      · exact move_lock ‹_›
      · exact .idle
  | look q =>
      cases ha
      simp only [step]
      split
      · rename_i r hcall
        exact move_look hcall (fun _ h => by cases h) (fun hnone => .clear r hcall hnone)
      · exact .idle
  | commit q now =>
      cases ha
      simp only [step]
      split
      · exact move_commit now ‹_›
      · exact .idle
  | lookBack q =>
      cases ha
      simp only [step]
      split
      · rename_i r e hcall
        have hlive : ∀ reply, Phase.undone e ≠ (.finished reply : Phase ρ ε) := fun _ h => by cases h
        -- looking back finds nothing: the error is raised as it came
        exact move_look hcall hlive (fun _ => .raised r (.undone e) e hcall hlive)
      · exact .idle
  | fail q e =>
      cases ha
      simp only [step]
      split
      · exact move_fail e ‹_›
      · exact .idle
  | other b => cases ha

/-- A move changes the store only by committing the work of a call. -/
theorem Move.store_cases {S S' : Serving σ ι ρ ε θ} {p : Nat} (h : K.Move S p S') :
    (S'.store = S.store ∧ S'.log = S.log ∧
      ∀ r res, S'.calls p = some (r, .finished (.created res)) →
        S.calls p = some (r, .finished (.created res))) ∨
    ∃ now r res, S.calls p = some (r, .fresh) ∧
      K.work now r S.store = .ok (S'.store, res) ∧
      S'.calls p = some (r, .finished (.created res)) ∧
      S'.log = S.log ++ [{ caller := p, request := r, result := res }] := by
  cases h with
  | idle => exact .inl ⟨rfl, rfl, fun _ _ h => h⟩
  | start r hnew => exact .inl ⟨rfl, rfl, fun _ _ h => by simp [Serving.calls_setCall] at h⟩
  | enter r hcall => exact .inl ⟨rfl, rfl, fun _ _ h => by simp [Serving.calls_setCall] at h⟩
  | lock r hcall hlocking hfree =>
      exact .inl ⟨rfl, rfl, fun _ _ h => by simp [Serving.calls_setCall] at h⟩
  | pass r hcall hlocking => exact .inl ⟨rfl, rfl, fun _ _ h => by simp [Serving.calls_setCall] at h⟩
  | clear r hcall hnone => exact .inl ⟨rfl, rfl, fun _ _ h => by simp [Serving.calls_setCall] at h⟩
  | answered r phase found hcall hlive hfound =>
      refine .inl ⟨rfl, rfl, fun r' res h => ?_⟩
      simp only [Serving.finish, Serving.calls_setCall, if_true, answer] at h
      split at h <;> simp at h
  | raised r phase e hcall hlive =>
      exact .inl ⟨rfl, rfl, fun _ _ h => by simp [Serving.finish, Serving.calls_setCall] at h⟩
  | undone r phase e hcall hphase =>
      exact .inl ⟨rfl, rfl, fun _ _ h => by simp [Serving.calls_setCall] at h⟩
  | committed now r s' res hcall hwork =>
      refine .inr ⟨now, r, res, hcall, hwork, ?_, rfl⟩
      simp [Serving.finish, Serving.calls_setCall]

/-- A move of one call leaves the others where they are. -/
theorem Move.calls_other {S S' : Serving σ ι ρ ε θ} {p q : Nat} (h : K.Move S p S') (hq : q ≠ p) :
    S'.calls q = S.calls q := by
  cases h with
  | idle => rfl
  | start => simp [Serving.calls_setCall, hq]
  | enter => simp [Serving.calls_setCall, hq]
  | lock => simp [Serving.calls_setCall, hq]
  | pass => simp [Serving.calls_setCall, hq]
  | clear => simp [Serving.calls_setCall, hq]
  | answered => simp [Serving.finish, Serving.release, Serving.calls_setCall, hq]
  | raised => simp [Serving.finish, Serving.release, Serving.calls_setCall, hq]
  | undone => simp [Serving.release, Serving.calls_setCall, hq]
  | committed => simp [Serving.finish, Serving.release, Serving.calls_setCall, hq]

/-- What is recorded stays recorded. -/
theorem Move.recorded {S S' : Serving σ ι ρ ε θ} {p : Nat} (h : K.Move S p S') {k : κ} {v : φ × ρ}
    (hk : K.recorded S.store k = some v) : K.recorded S'.store k = some v := by
  rcases h.store_cases with ⟨hstore, _⟩ | ⟨now, r, res, _, hwork, _⟩
  · rw [hstore]
    exact hk
  · have hne : k ≠ K.key r := by
      rintro rfl
      rw [K.work_unrecorded hwork] at hk
      cases hk
    rw [(K.recorded_work hwork).2 k hne]
    exact hk

end KeyedService

end Foundations
end RosarioDairy
