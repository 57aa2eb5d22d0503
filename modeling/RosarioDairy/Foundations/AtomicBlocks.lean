import Mathlib.Data.List.Basic

/-!
# AtomicBlocks — statements, nested atomic blocks and failures

A program issues statements on one database connection.  Outside every atomic block a statement
commits by itself; an atomic block commits what it did when it ends well, into the block around it or
for good, and undoes it otherwise.  Every statement, and every commit, may fail: with an error that
propagates to the end of the blocks it is in, or with a crash after which nothing runs any more and
every open block is lost.
-/

namespace RosarioDairy
namespace Foundations

/-- What happens to a statement that does not take effect. -/
inductive Failure
  | databaseError
  | crash
  deriving DecidableEq, Repr

/-- Which statements fail, by the order they are issued in. -/
abbrev Faults := Nat → Option Failure

inductive Ending
  | finished
  | raised
  | crashed
  deriving DecidableEq, Repr

/-- The number of statements issued so far, the committed data, and the data as each open block sees
them, innermost block first. -/
structure Session (σ : Type) where
  issued : Nat
  committed : σ
  blocks : List σ

namespace Session

variable {σ : Type}

/-- A connection without open blocks. -/
def start (data : σ) : Session σ :=
  { issued := 0
    committed := data
    blocks := [] }

/-- The data the next statement works on. -/
def current (S : Session σ) : σ := S.blocks.head?.getD S.committed

/-- A statement has taken effect. -/
def wrote (S : Session σ) (f : σ → σ) : Session σ :=
  match S.blocks with
  | [] =>
      { S with
        issued := S.issued + 1
        committed := f S.committed }
  | data :: rest =>
      { S with
        issued := S.issued + 1
        blocks := f data :: rest }

def crash (S : Session σ) : Session σ := { S with blocks := [] }

/-- Issue one statement. -/
def issue (faults : Faults) (f : σ → σ) (S : Session σ) : Ending × Session σ :=
  match faults S.issued with
  | none => (.finished, S.wrote f)
  | some .databaseError => (.raised, { S with issued := S.issued + 1 })
  | some .crash => (.crashed, S.crash)

/-- Go on after a part of the program that has finished. -/
def andThen (r : Ending × Session σ) (next : Session σ → Ending × Session σ) :
    Ending × Session σ :=
  match r with
  | (.finished, S) => next S
  | stopped => stopped

def enterBlock (S : Session σ) : Session σ := { S with blocks := S.current :: S.blocks }

/-- The innermost block is kept: it becomes what the block around it sees, or what is committed. -/
def keepBlock (S : Session σ) : Session σ :=
  match S.blocks with
  | [] => S
  | [data] => { S with committed := data, blocks := [] }
  | data :: _ :: rest => { S with blocks := data :: rest }

def undoBlock (S : Session σ) : Session σ := { S with blocks := S.blocks.tail }

/-- The end of an atomic block; its commit is one more statement that may fail. -/
def leaveBlock (faults : Faults) (r : Ending × Session σ) : Ending × Session σ :=
  match r with
  | (.finished, S) =>
      match faults S.issued with
      | none => (.finished, { S.keepBlock with issued := S.issued + 1 })
      | some .databaseError => (.raised, { S.undoBlock with issued := S.issued + 1 })
      | some .crash => (.crashed, S.crash)
  | (.raised, S) => (.raised, S.undoBlock)
  | (.crashed, S) => (.crashed, S)

/-- Errors that leave the block may be handled there, so that the program goes on. -/
def handle (caught : Bool) (r : Ending × Session σ) : Ending × Session σ :=
  match r with
  | (.raised, S) => (if caught then .finished else .raised, S)
  | other => other

def atomicBlock (faults : Faults) (caught : Bool) (body : Session σ → Ending × Session σ)
    (S : Session σ) : Ending × Session σ :=
  handle caught (leaveBlock faults (body S.enterBlock))

/-! ## Invariants -/

/-- The committed data and what every open block sees satisfy `P`. -/
structure Sound (P : σ → Prop) (S : Session σ) : Prop where
  committed : P S.committed
  blocks : ∀ data ∈ S.blocks, P data

/-- What a part of a program that was started in `n` open blocks keeps of `P`: an error may leave the
innermost block broken, which its end undoes. -/
def Kept (P : σ → Prop) (n : Nat) : Ending × Session σ → Prop
  | (.finished, S) => S.Sound P ∧ S.blocks.length = n
  | (.raised, S) => P S.committed ∧ (∀ data ∈ S.blocks.tail, P data) ∧ S.blocks.length = n
  | (.crashed, S) => P S.committed

section Invariants

variable {P : σ → Prop} {faults : Faults} {S : Session σ} {n : Nat}

theorem Sound.current (h : S.Sound P) : P S.current := by
  unfold Session.current
  cases hblocks : S.blocks with
  | nil => exact h.committed
  | cons data rest => exact h.blocks data (by rw [hblocks]; exact List.mem_cons_self)

theorem Sound.kept (h : S.Sound P) (hn : S.blocks.length = n) : Kept P n (.finished, S) := ⟨h, hn⟩

/-- A statement that keeps `P`. -/
theorem Sound.issue (h : S.Sound P) (hn : S.blocks.length = n) {f : σ → σ}
    (hf : ∀ data, P data → P (f data)) : Kept P n (S.issue faults f) := by
  unfold Session.issue
  split
  · unfold Session.wrote
    split
    · rename_i hblocks
      refine ⟨⟨hf _ h.committed, ?_⟩, hn⟩
      intro data hdata
      exact h.blocks data hdata
    · rename_i data rest hblocks
      have hdata : P data := h.blocks data (by rw [hblocks]; exact List.mem_cons_self)
      refine ⟨⟨h.committed, ?_⟩, by rw [← hn, hblocks]; rfl⟩
      intro data' hdata'
      rcases List.mem_cons.1 hdata' with rfl | hrest
      · exact hf data hdata
      · exact h.blocks data' (by rw [hblocks]; exact List.mem_cons_of_mem _ hrest)
  · exact ⟨h.committed, fun data hdata => h.blocks data (List.mem_of_mem_tail hdata), hn⟩
  · exact h.committed

theorem Kept.andThen {r : Ending × Session σ} {next : Session σ → Ending × Session σ}
    (h : Kept P n r) (hnext : ∀ S, S.Sound P → S.blocks.length = n → Kept P n (next S)) :
    Kept P n (andThen r next) := by
  rcases r with ⟨ending, S⟩
  cases ending with
  | finished => exact hnext S h.1 h.2
  | raised => exact h
  | crashed => exact h

theorem Sound.enterBlock (h : S.Sound P) : S.enterBlock.Sound P := by
  refine ⟨h.committed, ?_⟩
  intro data hdata
  rcases List.mem_cons.1 hdata with rfl | hold
  · exact h.current
  · exact h.blocks data hold

theorem Sound.keepBlock (h : S.Sound P) (hn : S.blocks.length = n + 1) :
    S.keepBlock.Sound P ∧ S.keepBlock.blocks.length = n := by
  unfold Session.keepBlock
  split
  · rename_i hblocks
    rw [hblocks] at hn
    cases hn
  · rename_i data hblocks
    have hdata : P data := h.blocks data (by rw [hblocks]; exact List.mem_cons_self)
    rw [hblocks] at hn
    exact ⟨⟨hdata, fun _ hmem => by cases hmem⟩, Nat.succ.inj hn⟩
  · rename_i data outer rest hblocks
    rw [hblocks] at hn
    refine ⟨⟨h.committed, ?_⟩, Nat.succ.inj hn⟩
    intro data' hdata'
    rcases List.mem_cons.1 hdata' with rfl | hrest
    · exact h.blocks data' (by rw [hblocks]; exact List.mem_cons_self)
    · exact h.blocks data' (by
        rw [hblocks]
        exact List.mem_cons_of_mem _ (List.mem_cons_of_mem _ hrest))

/-- An atomic block keeps `P` as soon as its body does, up to the block itself. -/
theorem Sound.atomicBlock (h : S.Sound P) (hn : S.blocks.length = n) {caught : Bool}
    {body : Session σ → Ending × Session σ}
    (hbody : ∀ S, S.Sound P → S.blocks.length = n + 1 → Kept P (n + 1) (body S)) :
    Kept P n (S.atomicBlock faults caught body) := by
  -- the body runs one block deeper
  have hinner : Kept P (n + 1) (body S.enterBlock) :=
    hbody _ h.enterBlock (by rw [← hn]; rfl)
  -- an undone block leaves the data that the enclosing block had
  have hundone : ∀ S' : Session σ, P S'.committed → (∀ data ∈ S'.blocks.tail, P data) →
      S'.blocks.length = n + 1 → ∀ m, Kept P n
        (handle caught (.raised, { S'.undoBlock with issued := m })) := by
    intro S' hcommitted htail hlength m
    have hless : S'.blocks.tail.length = n := by rw [List.length_tail, hlength]; rfl
    cases caught with
    | true => exact ⟨⟨hcommitted, htail⟩, hless⟩
    | false =>
        exact ⟨hcommitted, fun data hdata => htail data (List.mem_of_mem_tail hdata), hless⟩
  unfold Session.atomicBlock
  rcases hr : body S.enterBlock with ⟨ending, S'⟩
  rw [hr] at hinner
  cases ending with
  | finished =>
      rcases hinner with ⟨hsound, hlength⟩
      simp only [leaveBlock]
      split
      · -- the block is kept: its data becomes the data of the enclosing block
        rcases hsound.keepBlock hlength with ⟨hkept, hless⟩
        exact ⟨⟨hkept.committed, hkept.blocks⟩, hless⟩
      · exact hundone S' hsound.committed
          (fun data hdata => hsound.blocks data (List.mem_of_mem_tail hdata)) hlength _
      · -- the worker died at the commit, so the committed data is what was there before
        exact hsound.committed
  | raised => exact hundone S' hinner.1 hinner.2.1 hinner.2.2 S'.issued
  | crashed => exact hinner

/-- Inside a block, two statements in a row may break `P` in between. -/
theorem Sound.issue_pair (h : S.Sound P) (hn : S.blocks.length = n + 1) {f g : σ → σ}
    (hfg : ∀ data, P data → P (g (f data))) :
    Kept P (n + 1) (andThen (S.issue faults f) (fun S' => S'.issue faults g)) := by
  rcases hblocks : S.blocks with _ | ⟨data, rest⟩
  · rw [hblocks] at hn
    cases hn
  · have hdata : P data := h.blocks data (by rw [hblocks]; exact List.mem_cons_self)
    have hrest : ∀ d ∈ rest, P d := fun d hd =>
      h.blocks d (by rw [hblocks]; exact List.mem_cons_of_mem _ hd)
    have hlength : (data :: rest).length = n + 1 := by rw [← hblocks]; exact hn
    unfold Session.issue
    split
    · simp only [Session.andThen, Session.wrote, hblocks]
      split
      · refine ⟨⟨h.committed, ?_⟩, hlength⟩
        intro d hd
        rcases List.mem_cons.1 hd with rfl | hd
        · exact hfg data hdata
        · exact hrest d hd
      · exact ⟨h.committed, hrest, hlength⟩
      · exact h.committed
    · refine ⟨h.committed, ?_, hn⟩
      intro d hd
      exact h.blocks d (List.mem_of_mem_tail hd)
    · exact h.committed

end Invariants

/-! ## Programs that finish when nothing fails -/

/-- Without failures among the statements in between, the program finishes in `S'`. -/
def Finishes (program : Faults → Session σ → Ending × Session σ) (S S' : Session σ) : Prop :=
  S.issued ≤ S'.issued ∧ S'.blocks.length = S.blocks.length ∧
    ∀ faults : Faults, (∀ k, S.issued ≤ k → k < S'.issued → faults k = none) →
      program faults S = (.finished, S')

theorem Finishes.refl (S : Session σ) : Finishes (fun _ S => (.finished, S)) S S :=
  ⟨Nat.le_refl _, rfl, fun _ _ => rfl⟩

theorem issued_wrote (S : Session σ) (f : σ → σ) : (S.wrote f).issued = S.issued + 1 := by
  unfold wrote
  split
  · rfl
  · rfl

theorem length_wrote (S : Session σ) (f : σ → σ) :
    (S.wrote f).blocks.length = S.blocks.length := by
  unfold wrote
  split
  · rename_i hblocks
    rfl
  · rename_i hblocks
    rw [hblocks]
    rfl

theorem finishes_issue (S : Session σ) (f : σ → σ) :
    Finishes (fun faults S => S.issue faults f) S (S.wrote f) := by
  refine ⟨by rw [issued_wrote]; exact Nat.le_succ _, length_wrote S f, ?_⟩
  intro faults hquiet
  have hnone : faults S.issued = none :=
    hquiet S.issued (Nat.le_refl _) (by rw [issued_wrote]; exact Nat.lt_succ_self _)
  simp only [issue, hnone]

theorem Finishes.andThen {first next : Faults → Session σ → Ending × Session σ}
    {S S' S'' : Session σ} (h : Finishes first S S') (h' : Finishes next S' S'') :
    Finishes (fun faults S => Session.andThen (first faults S) (next faults)) S S'' := by
  rcases h with ⟨hle, hlength, hfirst⟩
  rcases h' with ⟨hle', hlength', hnext⟩
  refine ⟨Nat.le_trans hle hle', hlength'.trans hlength, ?_⟩
  intro faults hquiet
  have hstart := hfirst faults fun k hk hk' => hquiet k hk (Nat.lt_of_lt_of_le hk' hle')
  have hrest := hnext faults fun k hk hk' => hquiet k (Nat.le_trans hle hk) hk'
  simp only [hstart, Session.andThen]
  exact hrest

theorem length_keepBlock {S : Session σ} {n : Nat} (h : S.blocks.length = n + 1) :
    S.keepBlock.blocks.length = n :=
  (Sound.keepBlock (P := fun _ => True) ⟨trivial, fun _ _ => trivial⟩ h).2

theorem finishes_atomicBlock {body : Faults → Session σ → Ending × Session σ} {S S' : Session σ}
    (caught : Bool) (h : Finishes body S.enterBlock S') :
    Finishes (fun faults S => S.atomicBlock faults caught (body faults)) S
      { S'.keepBlock with issued := S'.issued + 1 } := by
  rcases h with ⟨hle, hlength, hbody⟩
  refine ⟨Nat.le_succ_of_le hle, length_keepBlock hlength, ?_⟩
  intro faults hquiet
  have hinner := hbody faults fun k hk hk' => hquiet k hk (Nat.lt_succ_of_lt hk')
  have hcommit : faults S'.issued = none := hquiet S'.issued hle (Nat.lt_succ_self _)
  simp only [atomicBlock, hinner, leaveBlock, hcommit, handle]

end Session

end Foundations
end RosarioDairy
