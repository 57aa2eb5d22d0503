import RosarioDairy.Foundations.Repeats
import RosarioDairy.Inventory.BatchNumbering
import RosarioDairy.PaddedNumbers

/-!
# BatchNumbers — the numbers of the committed batches

In every interleaving of creations the committed ones of a prefix, year and month have the sequence
numbers from one upwards in the order of their commits, and the counter is the last of them.  A batch
number determines its prefix, the last two digits of its year, its month and its sequence number.
-/

namespace RosarioDairy

open Foundations

/-! ## Batch numbers as texts -/

theorem toList_generateBatchNumber (code : String) (sequence : Nat) (businessDate : Int) :
    (generateBatchNumber code sequence businessDate).toList =
      (code.toList ++ '-' :: ((zeroPad 2 (Day.year businessDate % 100)).toList ++
        (zeroPad 2 (Day.month businessDate)).toList)) ++ '-' :: (zeroPad 3 sequence).toList := by
  simp [generateBatchNumber, String.toList_append]

/-- A batch number determines what it is generated from, but for the century. -/
theorem generateBatchNumber_inj {code code' : String} {sequence sequence' : Nat}
    {businessDate businessDate' : Int}
    (h : generateBatchNumber code sequence businessDate =
      generateBatchNumber code' sequence' businessDate') :
    code = code' ∧ sequence = sequence' ∧
      Day.year businessDate % 100 = Day.year businessDate' % 100 ∧
        Day.month businessDate = Day.month businessDate' := by
  have hlists := congrArg String.toList h
  rw [toList_generateBatchNumber, toList_generateBatchNumber] at hlists
  -- the last separator stands before the sequence number, the one before it after the prefix
  have hdash : ∀ width n, '-' ∉ (zeroPad width n).toList := fun width n => notMem_zeroPad (by decide)
  obtain ⟨hlists, hsequence⟩ := append_cons_inj_of_notMem (hdash 3 sequence) (hdash 3 sequence') hlists
  have hdashes : ∀ year month,
      '-' ∉ (zeroPad 2 year).toList ++ (zeroPad 2 month).toList := by
    intro year month hmem
    rcases List.mem_append.1 hmem with hyear | hmonth
    · exact hdash 2 year hyear
    · exact hdash 2 month hmonth
  obtain ⟨hcode, hdate⟩ := append_cons_inj_of_notMem (hdashes _ _) (hdashes _ _) hlists
  have hlength : ∀ n : Nat, (zeroPad 2 (n % 100)).toList.length = 2 :=
    fun n => length_zeroPad_two (Nat.mod_lt n (by decide))
  obtain ⟨hyear, hmonth⟩ := List.append_inj hdate ((hlength _).trans (hlength _).symm)
  exact ⟨String.toList_inj.1 hcode, zeroPad_inj (String.toList_inj.1 hsequence),
    zeroPad_inj (String.toList_inj.1 hyear), zeroPad_inj (String.toList_inj.1 hmonth)⟩

namespace BatchNumbering

/-! ## What a statement does -/

/-- What a creation knows of the counter row at a statement: it has read the row under its lock. -/
def Stage.Working (rows : CounterRows SequenceKey Nat) (p : Nat) (k : SequenceKey) : Stage → Prop
  | .save lastSeq => rows.Holds p k lastSeq
  | .create sequence => ∃ lastSeq, sequence = lastSeq + 1 ∧ rows.Holds p k lastSeq
  | .get _ => True
  | .insert _ => True
  | .getAgain _ => True

/-- What the next statement of an open transaction may do. -/
inductive Move (S : Numbering) (p : Nat) : Numbering → Prop
  | waits : Move S p S
  | goes (creation : Creation) (stage : Stage)
      (hstage : ∀ rows, stage.Working rows p creation.key) :
      Move S p (S.goes p creation stage)
  | locks (creation : Creation) (lastSeq : Nat)
      (hfree : S.counters.locked creation.key = none)
      (hvalue : lastSeq = S.counters.last creation.key) :
      Move S p (S.locks p creation lastSeq)
  | saves (creation : Creation) (lastSeq : Nat)
      (hcreator : S.creators p = some { creation := creation, stage := .save lastSeq }) :
      Move S p (S.goes p creation (.create (lastSeq + 1)))
  | rolls : Move S p (S.rollback p)
  | commits (creation : Creation) (sequence : Nat)
      (hcreator : S.creators p = some { creation := creation, stage := .create sequence }) :
      Move S p
        { counters := S.counters.commit p creation.key sequence
          creators := Function.update S.creators p none
          batches := S.batches ++
            [{ creation := creation
               sequence := sequence
               batchNumber := generateBatchNumber creation.code sequence creation.businessDate }] }

section Moves

variable {S : Numbering} {p : Nat}

theorem move_get {creation : Creation} {missing : Numbering} (hmissing : Move S p missing) :
    Move S p (S.get p creation missing) := by
  unfold Numbering.get
  cases hselect : S.counters.select creation.key with
  | row lastSeq =>
      obtain ⟨hfree, hvalue⟩ := CounterRows.select_eq_row hselect
      exact .locks creation lastSeq hfree hvalue
  | missing => exact hmissing
  | waits => exact .waits

theorem move_retry {creation : Creation} {attempt : Nat} :
    Move S p (S.retry p creation attempt) := by
  unfold Numbering.retry
  by_cases hlast : attempt = 2
  · rw [if_pos hlast]
    exact .rolls
  · rw [if_neg hlast]
    exact .goes creation _ fun _ => trivial

theorem move_issue {creator : Creator} (hcreator : S.creators p = some creator) :
    Move S p (S.issue p creator) := by
  obtain ⟨creation, stage⟩ := creator
  unfold Numbering.issue
  cases stage with
  | get attempt => exact move_get (.goes creation _ fun _ => trivial)
  | insert attempt =>
      dsimp only
      cases hinsert : S.counters.insert creation.key with
      | row =>
          obtain ⟨hfree, hvalue⟩ := CounterRows.insert_eq_row hinsert
          exact .locks creation 0 hfree hvalue
      | duplicate => exact .goes creation _ fun _ => trivial
      | waits => exact .waits
  | getAgain attempt => exact move_get move_retry
  | save lastSeq => exact .saves creation lastSeq hcreator
  | create sequence =>
      dsimp only [Numbering.commit]
      split
      · exact .rolls
      · exact .commits creation sequence hcreator

/-- What an action does, by the process that acts. -/
theorem move_step (S : Numbering) (action : Action) : ∃ p, Move S p (S.step action) := by
  cases action with
  | start p creation =>
      refine ⟨p, ?_⟩
      dsimp only [Numbering.step]
      cases S.creators p with
      | none => exact .goes creation _ fun _ => trivial
      | some creator => exact .waits
  | next p =>
      refine ⟨p, ?_⟩
      dsimp only [Numbering.step]
      cases hcreator : S.creators p with
      | none => exact .waits
      | some creator => exact move_issue hcreator
  | fail p => exact ⟨p, .rolls⟩

end Moves

/-! ## The invariant -/

/-- The sequence numbers of the committed batches of a key, in the order of their commits. -/
def sequencesOf (batches : List NumberedBatch) (k : SequenceKey) : List Nat :=
  (classOf NumberedBatch.key batches k).map NumberedBatch.sequence

/-- What holds of every state a run reaches. -/
structure Gapless (S : Numbering) : Prop where
  /-- An open transaction that has read its row holds it as it is committed. -/
  working : ∀ p creator, S.creators p = some creator →
    creator.stage.Working S.counters p creator.creation.key
  sequences : ∀ k, sequencesOf S.batches k = List.range' 1 (S.counters.last k)
  positive : ∀ k, S.counters.committed k ≠ some 0
  numbers : ∀ batch ∈ S.batches, batch.batchNumber =
    generateBatchNumber batch.creation.code batch.sequence batch.creation.businessDate

theorem Gapless.init : Gapless Numbering.init :=
  { working := fun _ _ h => by cases h
    sequences := fun _ => rfl
    positive := fun _ h => by cases h
    numbers := fun _ h => by cases h }

theorem sequencesOf_concat (batches : List NumberedBatch) (creation : Creation) (sequence : Nat)
    (batchNumber : String) (k : SequenceKey) :
    sequencesOf (batches ++
        [{ creation := creation, sequence := sequence, batchNumber := batchNumber }]) k =
      sequencesOf batches k ++ if k = creation.key then [sequence] else [] := by
  unfold sequencesOf classOf
  rw [List.filter_append, List.map_append]
  congr 1
  by_cases hk : k = creation.key
  · simp [NumberedBatch.key, hk]
  · simp [NumberedBatch.key, hk, Ne.symm hk]

section Steps

variable {S : Numbering} {p : Nat}

/-- What another transaction knows of its row stays so as long as it keeps its lock. -/
theorem Stage.Working.imp {rows rows' : CounterRows SequenceKey Nat} {k : SequenceKey}
    {stage : Stage} (h : stage.Working rows p k)
    (hholds : ∀ value, rows.Holds p k value → rows'.Holds p k value) :
    stage.Working rows' p k := by
  cases stage with
  | get attempt => trivial
  | insert attempt => trivial
  | getAgain attempt => trivial
  | save lastSeq => exact hholds lastSeq h
  | create sequence =>
      obtain ⟨lastSeq, hEq, h⟩ := h
      exact ⟨lastSeq, hEq, hholds lastSeq h⟩

/-- The transactions after one of them has gone on to `next`. -/
theorem Gapless.working_update (hS : Gapless S) {rows : CounterRows SequenceKey Nat}
    {next : Option Creator}
    (hnext : ∀ creator, next = some creator →
      creator.stage.Working rows p creator.creation.key)
    (hothers : ∀ p' k value, p' ≠ p → S.counters.Holds p' k value → rows.Holds p' k value) :
    ∀ p' creator, Function.update S.creators p next p' = some creator →
      creator.stage.Working rows p' creator.creation.key := by
  intro p' creator hcreator
  by_cases hp : p' = p
  · subst hp
    rw [Function.update_self] at hcreator
    exact hnext creator hcreator
  · rw [Function.update_of_ne hp] at hcreator
    exact (hS.working p' creator hcreator).imp fun value => hothers p' _ value hp

theorem Gapless.goes (hS : Gapless S) {creation : Creation} {stage : Stage}
    (hstage : stage.Working S.counters p creation.key) : Gapless (S.goes p creation stage) := by
  refine { hS with working := hS.working_update ?_ fun _ _ _ _ h => h }
  rintro creator ⟨⟩
  exact hstage

theorem Gapless.locks (hS : Gapless S) {creation : Creation} {lastSeq : Nat}
    (hfree : S.counters.locked creation.key = none)
    (hvalue : lastSeq = S.counters.last creation.key) : Gapless (S.locks p creation lastSeq) := by
  refine { hS with working := hS.working_update ?_ fun _ _ _ _ h => h.of_lock hfree }
  rintro creator ⟨⟩
  exact CounterRows.holds_lock hvalue

theorem Gapless.rollback (hS : Gapless S) : Gapless (S.rollback p) := by
  refine { hS with working := hS.working_update ?_ fun _ _ _ hp h => h.of_release hp }
  rintro creator ⟨⟩

/-- The commit of a creation: its number is the next one of its row, which it holds. -/
theorem Gapless.commits (hS : Gapless S) {creation : Creation} {sequence : Nat}
    (hcreator : S.creators p = some { creation := creation, stage := .create sequence }) :
    Gapless
      { counters := S.counters.commit p creation.key sequence
        creators := Function.update S.creators p none
        batches := S.batches ++
          [{ creation := creation
             sequence := sequence
             batchNumber := generateBatchNumber creation.code sequence creation.businessDate }] } := by
  -- the creator read the counter under its lock, so the counter still holds that value
  obtain ⟨lastSeq, hsequence, hholds⟩ : ∃ lastSeq, sequence = lastSeq + 1 ∧
      S.counters.Holds p creation.key lastSeq := hS.working p _ hcreator
  refine
    { working := hS.working_update ?_ fun _ _ _ hp h => h.of_commit hp hholds sequence
      sequences := ?_
      positive := ?_
      numbers := ?_ }
  · rintro creator ⟨⟩
  · intro k
    rw [sequencesOf_concat, hS.sequences, CounterRows.last_commit]
    -- the counter and the batches of its key advance together
    by_cases hk : k = creation.key
    · rw [if_pos hk, if_pos hk, hk, ← hholds.value_eq, hsequence, List.range'_1_concat, Nat.add_comm]
    · rw [if_neg hk, if_neg hk, List.append_nil]
  · intro k
    by_cases hk : k = creation.key
    · simp [CounterRows.commit, hk, hsequence]
    · simpa [CounterRows.commit, hk] using hS.positive k
  · intro batch hbatch
    rcases List.mem_append.1 hbatch with hold | hnew
    · exact hS.numbers batch hold
    · rw [List.mem_singleton.1 hnew]

theorem Gapless.move {S' : Numbering} (hS : Gapless S) (h : Move S p S') : Gapless S' := by
  cases h with
  | waits => exact hS
  | goes creation stage hstage => exact hS.goes (hstage S.counters)
  | locks creation lastSeq hfree hvalue => exact hS.locks hfree hvalue
  | saves creation lastSeq hcreator =>
      exact hS.goes ⟨lastSeq, rfl, hS.working p _ hcreator⟩
  | rolls => exact hS.rollback
  | commits creation sequence hcreator => exact hS.commits hcreator

theorem Gapless.run (actions : List Action) : Gapless (Numbering.run actions) := by
  refine runAll_preserves ?_ actions Gapless.init
  intro S action hS
  obtain ⟨p, hmove⟩ := move_step S action
  exact hS.move hmove

end Steps

/-! ## The committed batches -/

/-- Batches of one century with one number would have one key and one sequence number. -/
theorem Gapless.distinct {S : Numbering} (hS : Gapless S) :
    S.batches.Pairwise fun a b =>
      Day.year a.creation.businessDate < Day.year b.creation.businessDate + 100 →
        Day.year b.creation.businessDate < Day.year a.creation.businessDate + 100 →
          a.batchNumber ≠ b.batchNumber := by
  have hclasses : ∀ k, ((classOf NumberedBatch.key S.batches k).map NumberedBatch.sequence).Nodup := by
    intro k
    have hsequences : (classOf NumberedBatch.key S.batches k).map NumberedBatch.sequence =
        List.range' 1 (S.counters.last k) := hS.sequences k
    rw [hsequences]
    exact List.nodup_range'
  refine (pairwise_of_classOf hclasses).imp_of_mem ?_
  intro a b ha hb hdistinct hbelow habove hEq
  rw [hS.numbers a ha, hS.numbers b hb] at hEq
  obtain ⟨hcode, hsequence, hyear, hmonth⟩ := generateBatchNumber_inj hEq
  have hyears : Day.year a.creation.businessDate = Day.year b.creation.businessDate := by omega
  refine hdistinct ?_ hsequence
  unfold NumberedBatch.key Creation.key
  rw [hcode, hyears, hmonth]

/-- In every interleaving of creations: the committed batches of a prefix, year and month have the
sequence numbers from one to the counter, in the order of their commits, and batches created less than
a century apart have different numbers. -/
theorem batch_numbers_gapless (actions : List Action) :
    (∀ k, ∃ n, sequencesOf (Numbering.run actions).batches k = List.range' 1 n ∧
      (Numbering.run actions).counters.committed k = if n = 0 then none else some n) ∧
    (Numbering.run actions).batches.Pairwise fun a b =>
      Day.year a.creation.businessDate < Day.year b.creation.businessDate + 100 →
        Day.year b.creation.businessDate < Day.year a.creation.businessDate + 100 →
          a.batchNumber ≠ b.batchNumber := by
  have hS := Gapless.run actions
  refine ⟨?_, hS.distinct⟩
  intro k
  refine ⟨_, hS.sequences k, ?_⟩
  have hpositive := hS.positive k
  unfold CounterRows.last
  cases hcommitted : (Numbering.run actions).counters.committed k with
  | none => rfl
  | some n =>
      have hn : n ≠ 0 := by
        rintro rfl
        exact hpositive hcommitted
      simp [hn]

end BatchNumbering
end RosarioDairy
