import Mathlib.Data.List.Basic
import Mathlib.Logic.Function.Basic

/-!
# Interleaving — programs of concurrent processes, and rely/guarantee outlines for them

A program issues atomic statements on a shared state and goes on with their answers.  Processes are
started, take one statement at a time in any order, and may crash between two statements; a crash
gives back what the process held.  An outline says what every state satisfies (`inv`), what a process
relies on while others run (`rely`) and what a statement does at its place in the program (`does`); a
program that follows its outline against every interference the outline allows does so in every
interleaving.
-/

namespace RosarioDairy
namespace Foundations

/-- A program on the shared state `σ`; every statement carries the place it stands at. -/
inductive Program (L σ α : Type) : Type 1
  | returns (answer : α)
  | issues {β : Type} (place : L) (statement : σ → β × σ) (next : β → Program L σ α)

namespace Program

variable {L σ α β : Type}

def bind (p : Program L σ α) (next : α → Program L σ β) : Program L σ β :=
  match p with
  | .returns answer => next answer
  | .issues place statement rest => .issues place statement (fun b => (rest b).bind next)

instance : Monad (Program L σ) where
  pure := .returns
  bind := bind

@[simp] theorem pure_eq (a : α) : (pure a : Program L σ α) = .returns a := rfl

@[simp] theorem returns_bind (a : α) (next : α → Program L σ β) :
    ((Program.returns a : Program L σ α) >>= next) = next a := rfl

@[simp] theorem issues_bind {γ : Type} (place : L) (statement : σ → γ × σ)
    (rest : γ → Program L σ α) (next : α → Program L σ β) :
    (Program.issues place statement rest >>= next)
      = .issues place statement (fun b => rest b >>= next) := rfl

/-- A single statement. -/
def statement (place : L) (f : σ → α × σ) : Program L σ α := .issues place f .returns

/-- The place of the statement that is issued next. -/
def place : Program L σ α → Option L
  | .returns _ => none
  | .issues place _ _ => some place

/-- Run to the end while no other process does anything. -/
def runAlone : Program L σ α → σ → α × σ
  | .returns answer, s => (answer, s)
  | .issues _ f next, s => (next (f s).1).runAlone (f s).2

@[simp] theorem runAlone_returns (a : α) (s : σ) :
    (Program.returns a : Program L σ α).runAlone s = (a, s) := rfl

@[simp] theorem runAlone_statement (place : L) (f : σ → α × σ) (s : σ) :
    (Program.statement place f).runAlone s = f s := rfl

theorem runAlone_bind (p : Program L σ α) (next : α → Program L σ β) (s : σ) :
    (p >>= next).runAlone s = (next (p.runAlone s).1).runAlone (p.runAlone s).2 := by
  induction p generalizing s with
  | returns answer => rfl
  | issues place f rest ih => exact ih (f s).1 (f s).2

end Program

/-! ## Outlines -/

structure Outline (K L σ : Type) where
  inv : σ → Prop
  rely : K → σ → σ → Prop
  does : K → L → σ → σ → Prop

namespace Outline

variable {K L σ α β : Type} (O : Outline K L σ)

/-- Whatever others do between the statements of `p`, each statement does what the outline says at its
place, keeps the invariant and what the others rely on, and the answer satisfies `post`. -/
def Safe (k : K) (post : α → σ → Prop) : Program L σ α → σ → Prop
  | .returns answer, s => ∀ t, O.rely k s t → O.inv t → post answer t
  | .issues place f next, s => ∀ t, O.rely k s t → O.inv t →
      O.does k place t (f t).2 ∧ O.inv (f t).2 ∧ (∀ j, j ≠ k → O.rely j t (f t).2)
        ∧ Safe k post (next (f t).1) (f t).2

/-- Interference with process `k` does not invalidate `P`. -/
def Stable (k : K) (P : σ → Prop) : Prop := ∀ s t, P s → O.rely k s t → O.inv t → P t

def Triple (k : K) (P : σ → Prop) (p : Program L σ α) (Q : α → σ → Prop) : Prop :=
  ∀ s, O.inv s → P s → O.Safe k Q p s

/-- Interference composes. -/
structure Preorder : Prop where
  refl : ∀ k s, O.rely k s s
  trans : ∀ k s t u, O.rely k s t → O.rely k t u → O.rely k s u

variable {O}

theorem Safe.interfered (hO : O.Preorder) {k : K} {post : α → σ → Prop} {p : Program L σ α}
    {s t : σ} (h : O.Safe k post p s) (hst : O.rely k s t) : O.Safe k post p t := by
  cases p with
  | returns answer =>
      intro u htu hu
      exact h u (hO.trans k s t u hst htu) hu
  | issues place f next =>
      intro u htu hu
      exact h u (hO.trans k s t u hst htu) hu

theorem Safe.weaken {k : K} {Q R : α → σ → Prop} (hQR : ∀ a s, Q a s → R a s)
    {p : Program L σ α} {s : σ} (h : O.Safe k Q p s) : O.Safe k R p s := by
  induction p generalizing s with
  | returns answer =>
      intro t hst ht
      exact hQR answer t (h t hst ht)
  | issues place f next ih =>
      intro t hst ht
      obtain ⟨hdoes, hinv, hothers, hnext⟩ := h t hst ht
      exact ⟨hdoes, hinv, hothers, ih (f t).1 hnext⟩

theorem Safe.bind (hO : O.Preorder) {k : K} {Q : α → σ → Prop} {R : β → σ → Prop}
    {p : Program L σ α} {next : α → Program L σ β} {s : σ} (hs : O.inv s) (h : O.Safe k Q p s)
    (hnext : ∀ a, O.Triple k (Q a) (next a) R) : O.Safe k R (p >>= next) s := by
  induction p generalizing s with
  | returns answer => exact hnext answer s hs (h s (hO.refl k s) hs)
  | issues place f rest ih =>
      intro t hst ht
      obtain ⟨hdoes, hinv, hothers, hrest⟩ := h t hst ht
      exact ⟨hdoes, hinv, hothers, ih (f t).1 hinv hrest⟩

theorem triple_returns {k : K} {P : σ → Prop} {Q : α → σ → Prop} {a : α} (hP : O.Stable k P)
    (h : ∀ s, O.inv s → P s → Q a s) : O.Triple k P (.returns a) Q := by
  intro s _ hPs t hst ht
  exact h t ht (hP s t hPs hst ht)

/-- The rule for one statement. -/
theorem triple_statement {k : K} {P : σ → Prop} {Q : α → σ → Prop} {place : L} {f : σ → α × σ}
    (hP : O.Stable k P) (hQ : ∀ a, O.Stable k (Q a))
    (h : ∀ s, O.inv s → P s → O.does k place s (f s).2 ∧ O.inv (f s).2
      ∧ (∀ j, j ≠ k → O.rely j s (f s).2) ∧ Q (f s).1 (f s).2) :
    O.Triple k P (.statement place f) Q := by
  intro s _ hPs t hst ht
  obtain ⟨hdoes, hinv, hothers, hpost⟩ := h t ht (hP s t hPs hst ht)
  refine ⟨hdoes, hinv, hothers, ?_⟩
  intro u htu hu
  exact hQ (f t).1 _ u hpost htu hu

theorem stable_and {k : K} {P Q : σ → Prop} (hP : O.Stable k P) (hQ : O.Stable k Q) :
    O.Stable k (fun s => P s ∧ Q s) :=
  fun s t h hst ht => ⟨hP s t h.1 hst ht, hQ s t h.2 hst ht⟩

theorem stable_imp {k : K} (p : Prop) {P : σ → Prop} (hP : p → O.Stable k P) :
    O.Stable k (fun s => p → P s) :=
  fun s t h hst ht hp => hP hp s t (h hp) hst ht

theorem stable_forall {β : Type} {k : K} {P : β → σ → Prop} (hP : ∀ b, O.Stable k (P b)) :
    O.Stable k (fun s => ∀ b, P b s) :=
  fun s t h hst ht b => hP b s t (h b) hst ht

theorem stable_const {k : K} (p : Prop) : O.Stable k (fun _ => p) := fun _ _ h _ _ => h

/-- The rule for a statement that keeps what its own process relies on as well. -/
theorem triple_kept {k : K} {P : σ → Prop} {Q : α → σ → Prop} {place : L} {f : σ → α × σ}
    (hP : O.Stable k P) (hQ : ∀ a, O.Stable k (Q a))
    (h : ∀ s, O.inv s → P s → O.does k place s (f s).2 ∧ O.inv (f s).2
      ∧ (∀ j, O.rely j s (f s).2) ∧ Q (f s).1 (f s).2) :
    O.Triple k P (.statement place f) (fun a s => P s ∧ Q a s) := by
  apply triple_statement hP (fun a => stable_and hP (hQ a))
  intro s hs hPs
  obtain ⟨hdoes, hinv, hall, hpost⟩ := h s hs hPs
  exact ⟨hdoes, hinv, fun j _ => hall j, hP s _ hPs (hall k) hinv, hpost⟩

theorem triple_bind (hO : O.Preorder) {k : K} {P : σ → Prop} (Q : α → σ → Prop)
    {R : β → σ → Prop} {p : Program L σ α} {next : α → Program L σ β} (h : O.Triple k P p Q)
    (hnext : ∀ a, O.Triple k (Q a) (next a) R) : O.Triple k P (p >>= next) R := by
  intro s hs hPs
  exact (h s hs hPs).bind hO hs hnext

theorem triple_weaken {k : K} {P P' : σ → Prop} {Q Q' : α → σ → Prop} {p : Program L σ α}
    (hP : ∀ s, O.inv s → P' s → P s) (hQ : ∀ a s, Q a s → Q' a s) (h : O.Triple k P p Q) :
    O.Triple k P' p Q' := by
  intro s hs hPs
  exact (h s hs (hP s hs hPs)).weaken hQ

end Outline

/-! ## Systems -/

/-- The shared state and the rest of the program of each process that exists. -/
structure System (K L σ α : Type) where
  shared : σ
  processes : K → Option (Program L σ α)

/-- One event of an interleaving. -/
inductive Event (K Op Env : Type)
  | starts (k : K) (op : Op)
  | steps (k : K)
  | crashes (k : K)
  | ambient (e : Env)

/-- The program of each operation, what a crash gives back, and what the surroundings do. -/
structure Machine (K Op Env L σ α : Type) where
  program : K → Op → Program L σ α
  release : K → σ → σ
  ambient : Env → σ → σ

namespace System

variable {K L σ α : Type}

/-- Process `k` is about to issue the statement at `l`. -/
def At (S : System K L σ α) (k : K) (l : L) : Prop := (S.processes k).bind Program.place = some l

/-- No process exists yet. -/
def start (s : σ) : System K L σ α :=
  { shared := s
    processes := fun _ => none }

end System

namespace Machine

variable {K Op Env L σ α : Type} [DecidableEq K] (M : Machine K Op Env L σ α)

/-- One event; it does nothing where it cannot happen. -/
def act (S : System K L σ α) : Event K Op Env → System K L σ α
  | .starts k op =>
      match S.processes k with
      | none => { S with processes := Function.update S.processes k (some (M.program k op)) }
      | some _ => S
  | .steps k =>
      match S.processes k with
      | some (.issues _ f next) =>
          { shared := (f S.shared).2
            processes := Function.update S.processes k (some (next (f S.shared).1)) }
      | _ => S
  | .crashes k =>
      { shared := M.release k S.shared
        processes := Function.update S.processes k none }
  | .ambient e => { S with shared := M.ambient e S.shared }

def run (S : System K L σ α) (events : List (Event K Op Env)) : System K L σ α :=
  events.foldl M.act S

/-- Every event of the run satisfies `P` in the state it happens in. -/
def EachEvent (P : System K L σ α → Event K Op Env → Prop) :
    System K L σ α → List (Event K Op Env) → Prop
  | _, [] => True
  | S, e :: rest => P S e ∧ EachEvent P (M.act S e) rest

/-- The machine follows the outline: every operation's program is safe from the start, and neither a
crash nor the surroundings break the invariant or what a process relies on. -/
structure Follows (O : Outline K L σ) : Prop where
  preorder : O.Preorder
  program : ∀ k op s, O.inv s → O.Safe k (fun _ _ => True) (M.program k op) s
  release : ∀ k s, O.inv s →
    O.inv (M.release k s) ∧ ∀ j, j ≠ k → O.rely j s (M.release k s)
  ambient : ∀ e s, O.inv s → O.inv (M.ambient e s) ∧ ∀ j, O.rely j s (M.ambient e s)

end Machine

/-- What holds between two events of every interleaving. -/
structure System.Sound {K L σ α : Type} (O : Outline K L σ) (S : System K L σ α) : Prop where
  inv : O.inv S.shared
  safe : ∀ k p, S.processes k = some p → O.Safe k (fun _ _ => True) p S.shared

section Runs

variable {K Op Env L σ α : Type} {O : Outline K L σ}

theorem sound_start {s : σ} (h : O.inv s) :
    (System.start s : System K L σ α).Sound O := by
  refine ⟨h, ?_⟩
  intro k p hp
  cases hp

variable [DecidableEq K] {M : Machine K Op Env L σ α}

/-- The other processes stay safe when process `k` has done what they rely on. -/
theorem System.Sound.update (hO : O.Preorder) {S : System K L σ α} (h : S.Sound O) {k : K}
    {t : σ} (ht : O.inv t) (hothers : ∀ j, j ≠ k → O.rely j S.shared t)
    {q : Option (Program L σ α)}
    (hq : ∀ p, q = some p → O.Safe k (fun _ _ => True) p t) :
    ({ shared := t, processes := Function.update S.processes k q } : System K L σ α).Sound O := by
  refine ⟨ht, ?_⟩
  intro j p hp
  by_cases hjk : j = k
  · subst hjk
    exact hq p (by simpa using hp)
  · have hold : S.processes j = some p := by simpa [Function.update_of_ne hjk] using hp
    exact (h.safe j p hold).interfered hO (hothers j hjk)

/-- One event keeps every process safe. -/
theorem act_sound (hM : M.Follows O) {S : System K L σ α} (h : S.Sound O)
    (e : Event K Op Env) : (M.act S e).Sound O := by
  have hrefl := hM.preorder.refl
  cases e with
  | starts k op =>
      cases hk : S.processes k with
      | none =>
          -- `k` starts from the invariant, where its program is safe
          simp only [Machine.act, hk]
          apply h.update hM.preorder h.inv (fun j _ => hrefl j _)
          intro p hp
          cases hp
          exact hM.program k op S.shared h.inv
      | some p => simpa only [Machine.act, hk] using h
  | steps k =>
      cases hk : S.processes k with
      | none => simpa only [Machine.act, hk] using h
      | some p =>
          cases p with
          | returns answer => simpa only [Machine.act, hk] using h
          | issues place f next =>
              -- the step that `k` was ready for: its guarantee is what the others rely on
              obtain ⟨-, hinv, hothers, hnext⟩ :=
                h.safe k _ hk S.shared (hrefl k S.shared) h.inv
              simp only [Machine.act, hk]
              apply h.update hM.preorder hinv hothers
              intro p hp
              cases hp
              exact hnext
  | crashes k =>
      -- a crash gives back what `k` held
      obtain ⟨hinv, hothers⟩ := hM.release k S.shared h.inv
      apply h.update hM.preorder hinv hothers
      intro p hp
      cases hp
  | ambient e =>
      -- the environment moves: everyone sees it as interference
      obtain ⟨hinv, hall⟩ := hM.ambient e S.shared h.inv
      refine ⟨hinv, ?_⟩
      intro k p hp
      exact (h.safe k p hp).interfered hM.preorder (hall k)

theorem run_sound (hM : M.Follows O) {S : System K L σ α} (h : S.Sound O)
    (events : List (Event K Op Env)) : (M.run S events).Sound O := by
  induction events generalizing S with
  | nil => exact h
  | cons e rest ih => exact ih (act_sound hM h e)

/-- A process without a next statement does not change anything. -/
theorem act_steps_idle {S : System K L σ α} {k : K} (h : ∀ l, ¬ S.At k l) :
    M.act S (.steps k) = S := by
  cases hp : S.processes k with
  | none => simp only [Machine.act, hp]
  | some p =>
      cases p with
      | returns answer => simp only [Machine.act, hp]
      | issues place f next =>
          exact absurd (by simp [System.At, hp, Program.place]) (h place)

/-- A step does what the outline says at its place. -/
theorem System.Sound.steps (hO : O.Preorder) {S : System K L σ α} (h : S.Sound O) {k : K}
    {l : L} (hk : S.At k l) : O.does k l S.shared (M.act S (.steps k)).shared := by
  cases hp : S.processes k with
  | none => simp [System.At, hp] at hk
  | some p =>
      cases p with
      | returns answer => simp [System.At, hp, Program.place] at hk
      | issues place f next =>
          have hplace : place = l := by simpa [System.At, hp, Program.place] using hk
          subst hplace
          simp only [Machine.act, hp]
          exact (h.safe k _ hp S.shared (hO.refl k _) h.inv).1

theorem EachEvent.last {P : System K L σ α → Event K Op Env → Prop} {S : System K L σ α}
    {events : List (Event K Op Env)} {e : Event K Op Env} (h : M.EachEvent P S (events ++ [e])) :
    P (M.run S events) e := by
  induction events generalizing S with
  | nil => exact h.1
  | cons first rest ih => exact ih h.2

/-- Two conditions on the events of a run agree when they agree in every state the run can be in. -/
theorem eachEvent_congr (hM : M.Follows O) {P Q : System K L σ α → Event K Op Env → Prop}
    (hPQ : ∀ S : System K L σ α, S.Sound O → ∀ e, (P S e ↔ Q S e)) {S : System K L σ α}
    (h : S.Sound O) (events : List (Event K Op Env)) :
    M.EachEvent P S events ↔ M.EachEvent Q S events := by
  induction events generalizing S with
  | nil => exact Iff.rfl
  | cons e rest ih => exact and_congr (hPQ S h e) (ih (act_sound hM h e))

end Runs

end Foundations
end RosarioDairy
