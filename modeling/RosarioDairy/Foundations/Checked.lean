import Mathlib.Logic.Relation
import Mathlib.Data.List.Forall2

/-!
# Checked — fallible state changes that are rolled back

A guarded service call either returns a new state together with a result or raises an error.
This module collects the inversion lemmas for such calls (`Except ε` as the error monad), the
rule that a caught error restores the state the call started from (`settle`), and the induction
principles for loops and for runs of rolled-back calls.
-/

namespace RosarioDairy
namespace Foundations

universe u v w

section Calls

variable {ε : Type u} {α β σ : Type} {ι : Type w}

/-- Raise `e` unless `p` holds. -/
def require (p : Prop) [Decidable p] (e : ε) : Except ε Unit :=
  if p then .ok () else .error e

@[simp] theorem require_eq_ok {p : Prop} [Decidable p] {e : ε} {u : Unit} :
    require p e = .ok u ↔ p := by
  unfold require
  by_cases hp : p
  · simp [hp]
  · simp [hp]

/-- Unwrap a lookup, raising `e` when there is nothing to unwrap. -/
def demand (o : Option α) (e : ε) : Except ε α :=
  match o with
  | some a => .ok a
  | none => .error e

@[simp] theorem demand_eq_ok {o : Option α} {e : ε} {a : α} :
    demand o e = .ok a ↔ o = some a := by
  cases o with
  | none => simp [demand]
  | some b => simp [demand]

/-- A sequence of two calls succeeds exactly when both do. -/
@[simp] theorem ok_bind (a : α) (f : α → Except ε β) : (Except.ok a >>= f) = f a := rfl

theorem bind_eq_ok {x : Except ε α} {f : α → Except ε β} {b : β} :
    (x >>= f) = .ok b ↔ ∃ a, x = .ok a ∧ f a = .ok b := by
  cases x with
  | error e => simp [bind, Except.bind]
  | ok a => simp [bind, Except.bind]

@[simp] theorem pure_eq_ok {a b : α} : (pure a : Except ε α) = .ok b ↔ a = b := by
  simp [pure, Except.pure]

theorem pure_pair_eq_ok {a a' : α} {b b' : β} :
    (pure (a, b) : Except ε (α × β)) = .ok (a', b') ↔ a = a' ∧ b = b' := by
  simp [pure, Except.pure]

theorem toOption_eq_some {x : Except ε α} {a : α} : x.toOption = some a ↔ x = .ok a := by
  cases x with
  | error e => simp [Except.toOption]
  | ok b => simp [Except.toOption]

/-- A call behind a guard succeeds exactly when the guard holds and the rest succeeds. -/
theorem require_bind_eq_ok {p : Prop} [Decidable p] {e : ε} {f : Unit → Except ε β} {b : β} :
    ((require p e : Except ε Unit) >>= f) = .ok b ↔ p ∧ f () = .ok b := by
  unfold require
  by_cases hp : p
  · simp [hp, bind, Except.bind]
  · simp [hp, bind, Except.bind]

/-- A call behind a lookup succeeds exactly when the lookup does and the rest succeeds. -/
theorem demand_bind_eq_ok {o : Option α} {e : ε} {f : α → Except ε β} {b : β} :
    ((demand o e : Except ε α) >>= f) = .ok b ↔ ∃ a, o = some a ∧ f a = .ok b := by
  cases o with
  | none => simp [demand, bind, Except.bind]
  | some a => simp [demand, bind, Except.bind]

/-- A loop whose body preserves `P` preserves `P`. -/
theorem foldlM_preserves {P : σ → Prop} {f : σ → ι → Except ε σ} :
    ∀ {l : List ι} {s s' : σ},
      (∀ i ∈ l, ∀ s s', P s → f s i = .ok s' → P s') →
        l.foldlM f s = .ok s' → P s → P s'
  | [], s, s', _, h, hs => by
      have hEq : s = s' := by simpa using h
      exact hEq ▸ hs
  | i :: l, s, s', hstep, h, hs => by
      rw [List.foldlM_cons] at h
      rcases bind_eq_ok.1 h with ⟨s₁, h₁, h₂⟩
      have hs₁ : P s₁ := hstep i (by simp) s s₁ hs h₁
      exact foldlM_preserves (fun j hj => hstep j (by simp [hj])) h₂ hs₁

/-- A loop of checks succeeds exactly when every check does. -/
theorem forM_eq_ok {f : ι → Except ε Unit} {u : Unit} :
    ∀ {l : List ι}, l.forM f = .ok u ↔ ∀ i ∈ l, f i = .ok ()
  | [] => by
      constructor
      · intro _ i hi
        cases hi
      · intro _
        rfl
  | i :: l => by
      have hcons : (i :: l).forM f = f i >>= fun _ => l.forM f := List.forM_cons
      rw [hcons, bind_eq_ok, List.forall_mem_cons]
      constructor
      · rintro ⟨_, hi, hrest⟩
        exact ⟨hi, forM_eq_ok.1 hrest⟩
      · rintro ⟨hi, hrest⟩
        exact ⟨(), hi, forM_eq_ok.2 hrest⟩

/-- A loop that collects a result from each item succeeds exactly when every item does. -/
theorem mapM_eq_ok {f : ι → Except ε α} :
    ∀ {l : List ι} {r : List α}, l.mapM f = .ok r ↔ List.Forall₂ (fun i a => f i = .ok a) l r
  | [], r => by
      rw [List.mapM_nil, pure_eq_ok]
      constructor
      · rintro rfl
        exact List.Forall₂.nil
      · intro h
        cases h
        rfl
  | i :: l, r => by
      rw [List.mapM_cons]
      constructor
      · intro h
        obtain ⟨a, ha, h⟩ := bind_eq_ok.1 h
        obtain ⟨as, has, h⟩ := bind_eq_ok.1 h
        obtain rfl := pure_eq_ok.1 h
        exact List.Forall₂.cons ha (mapM_eq_ok.1 has)
      · intro h
        cases h with
        | cons ha has =>
            exact bind_eq_ok.2 ⟨_, ha, bind_eq_ok.2 ⟨_, mapM_eq_ok.2 has, pure_eq_ok.2 rfl⟩⟩

/-- Each result of the loop is that of one of its items. -/
theorem mapM_mem {f : ι → Except ε α} {l : List ι} {r : List α} (h : l.mapM f = .ok r) {a : α}
    (ha : a ∈ r) : ∃ i ∈ l, f i = .ok a := by
  obtain ⟨k, hk, rfl⟩ := List.mem_iff_getElem.1 ha
  have hall := mapM_eq_ok.1 h
  have hk' : k < l.length := by rw [hall.length_eq]; exact hk
  exact ⟨l[k], List.getElem_mem hk', hall.get hk' hk⟩

/-- The loop reads its body at the items only. -/
theorem mapM_congr {f g : ι → Except ε α} :
    ∀ {l : List ι}, (∀ i ∈ l, f i = g i) → l.mapM f = l.mapM g
  | [], _ => rfl
  | i :: l, h => by
      rw [List.mapM_cons, List.mapM_cons, h i (by simp),
        mapM_congr fun j hj => h j (by simp [hj])]

/-- Forgetting the result of a call that also returns the new state. -/
theorem map_fst_eq_ok {x : Except ε (σ × α)} {s : σ} :
    x.map Prod.fst = .ok s ↔ ∃ a, x = .ok (s, a) := by
  cases x with
  | error e => simp [Except.map]
  | ok p =>
      constructor
      · intro h
        have hEq : p.1 = s := by simpa [Except.map] using h
        exact ⟨p.2, by rw [← hEq]⟩
      · rintro ⟨a, h⟩
        have hEq : p = (s, a) := by simpa using h
        simp [Except.map, hEq]

/-- The state others observe after a call: the new one on success, the old one when it raised. -/
def settle (s : σ) : Except ε σ → σ
  | .ok s' => s'
  | .error _ => s

@[simp] theorem settle_ok (s s' : σ) : settle (ε := ε) s (.ok s') = s' := rfl

@[simp] theorem settle_error (s : σ) (e : ε) : settle s (.error e) = s := rfl

/-- Whatever every successful call keeps, a rolled-back call keeps. -/
theorem settle_preserves {P : σ → Prop} {s : σ} {x : Except ε σ}
    (hok : ∀ s', x = .ok s' → P s') (hs : P s) : P (settle s x) := by
  cases x with
  | error e => exact hs
  | ok s' => exact hok s' rfl

end Calls

section Runs

variable {σ : Type v} {ι : Type w}

/-- Run a list of operations from left to right. -/
def runAll (step : σ → ι → σ) (s : σ) (ops : List ι) : σ :=
  ops.foldl step s

@[simp] theorem runAll_nil (step : σ → ι → σ) (s : σ) : runAll step s [] = s := rfl

@[simp] theorem runAll_cons (step : σ → ι → σ) (s : σ) (op : ι) (ops : List ι) :
    runAll step s (op :: ops) = runAll step (step s op) ops := rfl

theorem runAll_append (step : σ → ι → σ) (s : σ) (ops ops' : List ι) :
    runAll step s (ops ++ ops') = runAll step (runAll step s ops) ops' := by
  simp [runAll]

/-- The run lemma: a step-invariant holds in every state a run reaches. -/
theorem runAll_preserves {P : σ → Prop} {step : σ → ι → σ}
    (hstep : ∀ s op, P s → P (step s op)) :
    ∀ (ops : List ι) {s : σ}, P s → P (runAll step s ops)
  | [], _, hs => hs
  | op :: ops, s, hs => runAll_preserves hstep ops (hstep s op hs)

/-- The run lemma for a run whose operations are restricted. -/
theorem runAll_preserves_of_mem {P : σ → Prop} {step : σ → ι → σ} :
    ∀ (ops : List ι), (∀ s, ∀ op ∈ ops, P s → P (step s op)) →
      ∀ {s : σ}, P s → P (runAll step s ops)
  | [], _, _, hs => hs
  | op :: ops, hstep, s, hs =>
      runAll_preserves_of_mem ops (fun s op hop => hstep s op (List.mem_cons_of_mem _ hop))
        (hstep s op List.mem_cons_self hs)

end Runs

end Foundations
end RosarioDairy
