import RosarioDairy.Foundations.CounterRows
import RosarioDairy.Inventory.BatchSerializer

/-!
# BatchNumbering — batch numbers taken by concurrent creations

`ProdBatchSerializer.create` takes the next number of its prefix and month, formats it and inserts the
batch in one transaction.  The counter row is read under a lock, or inserted when it is missing, in up
to three attempts; other creations run between any two statements, and a creation may fail anywhere.
-/

namespace RosarioDairy
namespace BatchNumbering

open Foundations

/-! ## Creations in flight -/

/-- `unique_together = ('prefix', 'year', 'month')` -/
structure SequenceKey where
  code : String
  year : Nat
  month : Nat
  deriving DecidableEq, Repr

/-- The prefix of the batch number and the business date the creation has captured. -/
structure Creation where
  code : String
  businessDate : Int

/-- The counter row of a creation. -/
def Creation.key (creation : Creation) : SequenceKey :=
  { code := creation.code
    year := Day.year creation.businessDate
    month := Day.month creation.businessDate }

/-- The statement a creation issues next; `attempt` is that of `for attempt in range(3)`. -/
inductive Stage
  /-- `get_or_create`: the first read under a lock. -/
  | get (attempt : Nat)
  /-- `get_or_create`: the row was missing and is inserted with `last_seq` 0. -/
  | insert (attempt : Nat)
  /-- `get_or_create`: the insert has raised `IntegrityError` and the row is read again. -/
  | getAgain (attempt : Nat)
  /-- `seq_row.save(update_fields=['last_seq'])`, with the value the row was read with. -/
  | save (lastSeq : Nat)
  /-- `super().create(validated_data)` and the commit. -/
  | create (sequence : Nat)

structure Creator where
  creation : Creation
  stage : Stage

/-- A committed batch. -/
structure NumberedBatch where
  creation : Creation
  sequence : Nat
  batchNumber : String

def NumberedBatch.key (batch : NumberedBatch) : SequenceKey := batch.creation.key

/-- The counters with their locks, the open transactions, and the committed batches in the order of
their commits. -/
structure Numbering where
  counters : CounterRows SequenceKey Nat
  creators : Nat → Option Creator
  batches : List NumberedBatch

namespace Numbering

def init : Numbering :=
  { counters := CounterRows.empty
    creators := fun _ => none
    batches := [] }

/-! ## Statements -/

/-- The transaction goes on to another statement. -/
def goes (S : Numbering) (p : Nat) (creation : Creation) (stage : Stage) : Numbering :=
  { S with creators := Function.update S.creators p (some { creation := creation, stage := stage }) }

/-- The counter row is locked, and was read with the value `lastSeq`. -/
def locks (S : Numbering) (p : Nat) (creation : Creation) (lastSeq : Nat) : Numbering :=
  { S.goes p creation (.save lastSeq) with counters := S.counters.lock creation.key p }

/-- The transaction is rolled back. -/
def rollback (S : Numbering) (p : Nat) : Numbering :=
  { S with
    counters := S.counters.release p
    creators := Function.update S.creators p none }

/-- `IntegrityError` has reached `next_sequence`. -/
def retry (S : Numbering) (p : Nat) (creation : Creation) (attempt : Nat) : Numbering :=
  if attempt = 2 then S.rollback p else S.goes p creation (.get (attempt + 1))

/-- The batch is inserted and the transaction committed, unless the batch number is taken. -/
def commit (S : Numbering) (p : Nat) (creation : Creation) (sequence : Nat) : Numbering :=
  let batchNumber := generateBatchNumber creation.code sequence creation.businessDate
  if batchNumber ∈ S.batches.map NumberedBatch.batchNumber then S.rollback p
  else
    { counters := S.counters.commit p creation.key sequence
      creators := Function.update S.creators p none
      batches := S.batches ++
        [{ creation := creation
           sequence := sequence
           batchNumber := batchNumber }] }

/-- A read under a lock, by the creation's attempt; `missing` says what follows when there is no row. -/
def get (S : Numbering) (p : Nat) (creation : Creation) (missing : Numbering) : Numbering :=
  match S.counters.select creation.key with
  | .row lastSeq => S.locks p creation lastSeq
  | .missing => missing
  | .waits => S

/-- The next statement of a creation. -/
def issue (S : Numbering) (p : Nat) (creator : Creator) : Numbering :=
  match creator.stage with
  | .get attempt => S.get p creator.creation (S.goes p creator.creation (.insert attempt))
  | .insert attempt =>
      match S.counters.insert creator.creation.key with
      | .row => S.locks p creator.creation 0
      | .duplicate => S.goes p creator.creation (.getAgain attempt)
      | .waits => S
  | .getAgain attempt => S.get p creator.creation (S.retry p creator.creation attempt)
  | .save lastSeq => S.goes p creator.creation (.create (lastSeq + 1))
  | .create sequence => S.commit p creator.creation sequence

end Numbering

/-! ## Runs -/

/-- A creation begins, issues its next statement, or fails. -/
inductive Action
  | start (p : Nat) (creation : Creation)
  | next (p : Nat)
  | fail (p : Nat)

namespace Numbering

def step (S : Numbering) : Action → Numbering
  | .start p creation =>
      match S.creators p with
      | none => S.goes p creation (.get 0)
      | some _ => S
  | .next p =>
      match S.creators p with
      | none => S
      | some creator => S.issue p creator
  | .fail p => S.rollback p

def run (actions : List Action) : Numbering := runAll step init actions

end Numbering

-- both find the row missing; the second one waits for the insert of the first, and reads its row
example :
    let creation : Creation :=
      { code := "PRD"
        businessDate := 738945 }
    (Numbering.run
      [.start 0 creation, .start 1 creation, .next 0, .next 1, .next 0, .next 1, .next 0, .next 0,
        .next 1, .next 1, .next 1, .next 1]).batches.map NumberedBatch.batchNumber =
      ["PRD-2402-001", "PRD-2402-002"] := by decide +kernel

end BatchNumbering
end RosarioDairy
