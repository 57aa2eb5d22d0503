import RosarioDairy.Foundations.StepConditions

/-!
# RowSaves — rows that are read, changed in memory and saved

A request reads a row, sets some columns of its copy and saves it: the whole copy, or the columns it
names.  Requests on one row interleave as they like.  The row holds what the last request to name a
column wrote, in every state of a run, exactly when no whole copy is saved over columns that have
changed since it was read and that its request does not name.
-/

namespace RosarioDairy
namespace Foundations

variable {C : Type} {V : C → Type}

/-- What a request writes: the columns it names, with their values, and whether it saves its whole copy
or these columns only.  It goes on with the rows it accepts. -/
structure RowWrite (V : C → Type) where
  accepts : ((c : C) → V c) → Bool
  named : (c : C) → Option (V c)
  wholeRow : Bool

/-- The row after the save of a copy. -/
def RowWrite.onto (write : RowWrite V) (copy row : (c : C) → V c) : (c : C) → V c :=
  fun c => (write.named c).getD (if write.wholeRow then copy c else row c)

/-- A row, the requests under way with what they have read, and the columns named by the requests that
have saved, in the order of their saves. -/
structure RowDesk (V : C → Type) where
  row : (c : C) → V c
  copies : Nat → Option (RowWrite V × ((c : C) → V c))
  saves : List ((c : C) → Option (V c))

inductive RowAction (V : C → Type)
  | read (id : Nat) (write : RowWrite V)
  | save (id : Nat)
  | giveUp (id : Nat)

namespace RowDesk

def init (row : (c : C) → V c) : RowDesk V :=
  { row := row
    copies := fun _ => none
    saves := [] }

def setCopy (S : RowDesk V) (id : Nat) (copy : Option (RowWrite V × ((c : C) → V c))) : RowDesk V :=
  { S with copies := fun k => if k = id then copy else S.copies k }

def step (S : RowDesk V) : RowAction V → RowDesk V
  | .read id write =>
      match S.copies id with
      | none => if write.accepts S.row then S.setCopy id (some (write, S.row)) else S
      | some _ => S
  | .save id =>
      match S.copies id with
      | none => S
      | some (write, copy) =>
          { S.setCopy id none with
            row := write.onto copy S.row
            saves := S.saves ++ [write.named] }
  | .giveUp id => S.setCopy id none

def run (S : RowDesk V) (actions : List (RowAction V)) : RowDesk V := runAll step S actions

/-- The value that an action writes into a column it names. -/
def names (S : RowDesk V) (action : RowAction V) (c : C) : Option (V c) :=
  match action with
  | .save id => (S.copies id).bind fun held => held.1.named c
  | _ => none

/-- The columns that the action does not name keep their values. -/
def ChangesOnlyNamed (S : RowDesk V) (action : RowAction V) : Prop :=
  ∀ c, S.names action c = none → (S.step action).row c = S.row c

/-- Every column holds the value written by the last request that named it, if there was one. -/
def HoldsLastNamed (row : (c : C) → V c) (S : RowDesk V) : Prop :=
  ∀ c, S.row c = (S.saves.reverse.findSome? fun named => named c).getD (row c)

/-- No update is lost in the run: requests change only what they name, and in every state reached each
column holds what was written last by a request that named it. -/
structure KeepsUpdates (row : (c : C) → V c) (actions : List (RowAction V)) : Prop where
  onlyNamed : EachStep step ChangesOnlyNamed (init row) actions
  lastNamed : ∀ pre post, actions = pre ++ post → HoldsLastNamed row ((init row).run pre)

/-- A whole copy is saved only while the columns its request does not name still are as it has read
them. -/
def SavesFresh (S : RowDesk V) : RowAction V → Prop
  | .save id => ∀ write copy, S.copies id = some (write, copy) → write.wholeRow = true →
      ∀ c, write.named c = none → S.row c = copy c
  | _ => True

/-! ## Steps -/

section Steps

variable {row : (c : C) → V c} {S : RowDesk V} {action : RowAction V}

theorem read_unchanged (S : RowDesk V) (id : Nat) (write : RowWrite V) :
    (S.step (.read id write)).row = S.row ∧ (S.step (.read id write)).saves = S.saves := by
  simp only [step]
  split
  · split
    · exact ⟨rfl, rfl⟩
    · exact ⟨rfl, rfl⟩
  · exact ⟨rfl, rfl⟩

/-- A save changes only what it names exactly when it is fresh. -/
theorem changesOnlyNamed_iff (S : RowDesk V) (action : RowAction V) :
    S.ChangesOnlyNamed action ↔ S.SavesFresh action := by
  cases action with
  | read id write =>
      -- reading copies the row and changes none of its columns
      refine iff_of_true (fun c _ => ?_) trivial
      rw [(S.read_unchanged id write).1]
  | giveUp id => exact iff_of_true (fun _ _ => rfl) trivial
  | save id =>
      cases hcopy : S.copies id with
      | none =>
          -- a save without a copy does nothing
          refine iff_of_true (fun c _ => ?_) ?_
          · simp only [step, hcopy]
          · intro write copy hheld
            rw [hcopy] at hheld
            cases hheld
      | some held =>
          obtain ⟨write, copy⟩ := held
          have hnames : ∀ c, S.names (.save id) c = write.named c := by
            intro c
            simp [names, hcopy]
          have hrow : ∀ c, (S.step (.save id)).row c = write.onto copy S.row c := by
            intro c
            simp only [step, hcopy]
          constructor
          · -- the columns not named keep their value, so the copy agreed with the row on them
            intro honly write' copy' hheld hwhole c hnot
            rw [hcopy] at hheld
            cases hheld
            have hkept := honly c ((hnames c).trans hnot)
            rw [hrow c] at hkept
            simpa [RowWrite.onto, hnot, hwhole] using hkept.symm
          · -- a fresh copy writes back what the row holds already
            intro hfresh c hnot
            rw [hnames c] at hnot
            rw [hrow c]
            cases hwhole : write.wholeRow with
            | false => simp [RowWrite.onto, hnot, hwhole]
            | true =>
                have hsame := hfresh write copy hcopy hwhole c hnot
                simp [RowWrite.onto, hnot, hwhole, hsame]

/-- A step that changes only what it names keeps the last named values. -/
theorem HoldsLastNamed.step (h : HoldsLastNamed row S) (honly : S.ChangesOnlyNamed action) :
    HoldsLastNamed row (S.step action) := by
  intro c
  cases action with
  | read id write =>
      rw [(S.read_unchanged id write).1, (S.read_unchanged id write).2]
      exact h c
  | giveUp id => exact h c
  | save id =>
      cases hcopy : S.copies id with
      | none =>
          simp only [RowDesk.step, hcopy]
          exact h c
      | some held =>
          obtain ⟨write, copy⟩ := held
          have hkept := honly c
          simp only [names, hcopy, Option.bind_some, RowDesk.step] at hkept
          simp only [RowDesk.step, hcopy, List.reverse_append, List.reverse_singleton,
            List.singleton_append, List.findSome?_cons]
          cases hnamed : write.named c with
          | some value => simp [RowWrite.onto, hnamed]
          | none =>
              simp only
              exact (hkept hnamed).trans (h c)

end Steps

/-! ## Runs -/

theorem holdsLastNamed_init (row : (c : C) → V c) : HoldsLastNamed row (init row) := fun _ => rfl

/-- No update is lost exactly when every whole copy is saved fresh. -/
theorem keepsUpdates_iff (row : (c : C) → V c) (actions : List (RowAction V)) :
    KeepsUpdates row actions ↔ EachStep step SavesFresh (init row) actions := by
  constructor
  · intro h
    exact h.onlyNamed.imp fun S action => (changesOnlyNamed_iff S action).1
  · intro h
    have honly := h.imp fun S action => (changesOnlyNamed_iff S action).2
    refine ⟨honly, ?_⟩
    rintro pre post rfl
    exact EachStep.preserves (fun S action => HoldsLastNamed.step) (holdsLastNamed_init row)
      (EachStep.append.1 honly).1

end RowDesk

end Foundations
end RosarioDairy
