import Mathlib.Algebra.BigOperators.Group.List.Basic
import RosarioDairy.Inventory.Fefo
import RosarioDairy.Operations

/-!
# Deduction — what a deduction takes, and from which batches

The consuming loop empties the batches it locks one after the other until the quantity is covered.
So a deduction succeeds exactly when the sellable total is enough, it takes exactly the quantity, and
it touches a batch only when everything that expires earlier is used up.
-/

namespace RosarioDairy

open Foundations

/-! ## The order of the batches -/

instance : Std.Total ProductBatch.expiresBefore :=
  ⟨fun a b => by
    unfold ProductBatch.expiresBefore
    omega⟩

instance : IsTrans ProductBatch ProductBatch.expiresBefore :=
  ⟨fun a b c hab hbc => by
    unfold ProductBatch.expiresBefore at *
    omega⟩

/-- Two batches that expire before each other are the same row. -/
theorem ProductBatch.pk_eq_of_expiresBefore {a b : ProductBatch} (hab : a.expiresBefore b)
    (hba : b.expiresBefore a) : a.pk = b.pk := by
  unfold ProductBatch.expiresBefore at *
  omega

theorem pairwise_fefoBatches (s : Store) (today : Int) (product : Nat) :
    (fefoBatches s today product).Pairwise ProductBatch.expiresBefore :=
  List.pairwise_insertionSort ProductBatch.expiresBefore _

/-- The total the deduction checks is the one `_available_stock` reports. -/
theorem sum_fefoBatches (s : Store) (today : Int) (product : Nat) :
    ((fefoBatches s today product).map ProductBatch.remainingQuantity).sum =
      availableStock s today product :=
  ((List.perm_insertionSort ProductBatch.expiresBefore _).map
    ProductBatch.remainingQuantity).sum_eq

/-! ## The consuming loop -/

@[simp] theorem ProductBatch.drawn_pk (batch : ProductBatch) (take : Int) :
    (batch.drawn take).pk = batch.pk := rfl

@[simp] theorem ProductBatch.drawn_remainingQuantity (batch : ProductBatch) (take : Int) :
    (batch.drawn take).remainingQuantity = batch.remainingQuantity - take := rfl

/-- Everything a batch has left is taken from it. -/
def ProductBatch.drain (batch : ProductBatch) : ProductBatch × Int :=
  (batch.drawn batch.remainingQuantity, batch.remainingQuantity)

theorem consume_done {quantity : Int} (h : quantity ≤ 0) :
    ∀ batches, consume batches quantity = []
  | [] => rfl
  | batch :: batches => by simp [consume, h]

/-- The loop drains a first part of the batches and takes what is still missing, and no more than
there is, from the next one. -/
theorem consume_split :
    ∀ (batches : List ProductBatch) (quantity : Int),
      (∀ batch ∈ batches, 0 < batch.remainingQuantity) → 0 < quantity →
      quantity ≤ (batches.map ProductBatch.remainingQuantity).sum →
      ∃ drained last rest take, batches = drained ++ last :: rest ∧
        consume batches quantity = drained.map ProductBatch.drain ++ [(last.drawn take, take)] ∧
        0 < take ∧ take ≤ last.remainingQuantity ∧
        (drained.map ProductBatch.remainingQuantity).sum + take = quantity
  | [], quantity, _, hpositive, henough => by
      -- nothing is left to deduct from, though something was missing
      rw [List.map_nil, List.sum_nil] at henough
      exact absurd hpositive (Int.not_lt.2 henough)
  | batch :: batches, quantity, hstock, hpositive, henough => by
      have hbatch : 0 < batch.remainingQuantity := hstock batch List.mem_cons_self
      have hstep : consume (batch :: batches) quantity =
          (batch.drawn (min batch.remainingQuantity quantity),
            min batch.remainingQuantity quantity) ::
            consume batches (quantity - min batch.remainingQuantity quantity) := by
        simp only [consume, if_neg (Int.not_le.2 hpositive)]
      rcases lt_or_ge batch.remainingQuantity quantity with hless | hcovers
      · -- the batch is drained, and the loop goes on with the rest
        have htake : min batch.remainingQuantity quantity = batch.remainingQuantity :=
          Int.min_eq_left (Int.le_of_lt hless)
        rw [List.map_cons, List.sum_cons] at henough
        have hrest := consume_split batches (quantity - batch.remainingQuantity)
          (fun b hb => hstock b (List.mem_cons_of_mem _ hb)) (by omega) (by omega)
        rcases hrest with ⟨drained, last, rest, take, hsplit, hconsume, hpos, hle, hsum⟩
        refine ⟨batch :: drained, last, rest, take, ?_, ?_, hpos, hle, ?_⟩
        · rw [hsplit, List.cons_append]
        · rw [hstep, htake, hconsume]
          rfl
        · rw [List.map_cons, List.sum_cons]
          omega
      · -- the batch covers what is missing
        have htake : min batch.remainingQuantity quantity = quantity := Int.min_eq_right hcovers
        refine ⟨[], batch, batches, quantity, rfl, ?_, hpositive, hcovers, ?_⟩
        · rw [hstep, htake, consume_done (by omega)]
          rfl
        · rw [List.map_nil, List.sum_nil, Int.zero_add]

/-! ## The deduction -/

/-- A batch the deduction may take from. -/
def ProductBatch.isEligible (today : Int) (product : Nat) (batch : ProductBatch) : Prop :=
  batch.product = product ∧ batch.isSellable today = true

/-- `quantity` has been taken from the eligible batches of a product, first expired, first out. -/
structure Deducted (today : Int) (product : Nat) (quantity : Int) (s s' : Store)
    (consumed : List (ProductBatch × Int)) : Prop where
  positive : ∀ draw ∈ consumed, 0 < draw.2
  total : (consumed.map Prod.snd).sum = quantity
  once : (consumed.map (fun draw => draw.1.pk)).Nodup
  touched : ∀ draw ∈ consumed, ∃ batch ∈ s.batches.rows, batch.isEligible today product ∧
    draw.1 = batch.drawn draw.2 ∧ s'.batches.find batch.pk = some draw.1 ∧
    (draw.1.status = .depleted ↔ draw.1.remainingQuantity = 0)
  order : ∀ draw ∈ consumed, ∀ earlier ∈ s.batches.rows, earlier.isEligible today product →
    earlier.expiresBefore draw.1 → earlier.pk ≠ draw.1.pk →
    ∃ emptied, s'.batches.find earlier.pk = some emptied ∧ emptied.remainingQuantity = 0
  others : ∀ k, (∀ draw ∈ consumed, draw.1.pk ≠ k) → s'.batches.find k = s.batches.find k
  rest : s' = { s with batches := s'.batches }

section Deduction

variable {s : Store} {today : Int} {product : Nat}

/-- The loop takes nothing it does not find in a locked batch, and changes nothing else of it. -/
theorem mem_consume {batches : List ProductBatch} {draw : ProductBatch × Int} :
    ∀ {quantity : Int}, draw ∈ consume batches quantity →
      ∃ batch ∈ batches, draw.1 = batch.drawn draw.2 := by
  induction batches with
  | nil =>
      intro quantity h
      cases h
  | cons batch batches ih =>
      intro quantity h
      by_cases hdone : quantity ≤ 0
      · rw [consume_done hdone] at h
        cases h
      · simp only [consume, if_neg hdone] at h
        rcases List.mem_cons.1 h with rfl | hlater
        · exact ⟨batch, List.mem_cons_self, rfl⟩
        · rcases ih hlater with ⟨later, hmem, hdraw⟩
          exact ⟨later, List.mem_cons_of_mem _ hmem, hdraw⟩

/-- The keys of the consumed batches are those of the first locked ones. -/
theorem consume_pks :
    ∀ (batches : List ProductBatch) (quantity : Int),
      ((consume batches quantity).map (fun draw => draw.1.pk)).Sublist
        (batches.map ProductBatch.pk)
  | [], _ => List.Sublist.refl _
  | batch :: batches, quantity => by
      by_cases hdone : quantity ≤ 0
      · rw [consume_done hdone]
        exact List.nil_sublist _
      · simp only [consume, if_neg hdone, List.map_cons]
        exact (consume_pks batches _).cons_cons _

theorem nodup_consumed (s : Store) (today : Int) (product : Nat) (quantity : Int) :
    ((consume (fefoBatches s today product) quantity).map (fun draw => draw.1.pk)).Nodup :=
  (nodup_fefoBatches s today product).sublist (consume_pks _ _)

/-- A consumed batch is found as it was saved. -/
theorem find_consumed {quantity : Int} {draw : ProductBatch × Int}
    (hdraw : draw ∈ consume (fefoBatches s today product) quantity) :
    (saveBatches s ((consume (fefoBatches s today product) quantity).map Prod.fst)).batches.find
      draw.1.pk = some draw.1 := by
  rcases mem_consume hdraw with ⟨batch, hbatch, hEq⟩
  have hrow := (mem_fefoBatches.1 hbatch).1
  have hkey : draw.1.pk = batch.pk := by rw [hEq]; rfl
  refine Table.find_putAll_of_mem _ s.batches ?_ draw.1 (List.mem_map.2 ⟨draw, hdraw, rfl⟩)
    ⟨batch, ?_⟩
  · rw [List.map_map]
    exact nodup_consumed s today product quantity
  · show s.batches.find draw.1.pk = some batch
    rw [hkey]
    exact s.batches.find_of_mem hrow

/-- Eligible batches that expire before a batch of the sorted list stand in front of it. -/
theorem mem_front_of_expiresBefore {front rest : List ProductBatch} {last earlier : ProductBatch}
    (hsorted : (front ++ last :: rest).Pairwise ProductBatch.expiresBefore)
    (hmem : earlier ∈ front ++ last :: rest) (hbefore : earlier.expiresBefore last)
    (hne : earlier.pk ≠ last.pk) : earlier ∈ front := by
  rcases List.mem_append.1 hmem with hfront | hback
  · exact hfront
  · rcases List.mem_cons.1 hback with rfl | hrest
    · exact absurd rfl hne
    · have hafter : last.expiresBefore earlier :=
        List.rel_of_pairwise_cons (List.pairwise_append.1 hsorted).2.1 hrest
      exact absurd (ProductBatch.pk_eq_of_expiresBefore hbefore hafter) hne

theorem saveBatches_deducted {quantity : Int}
    (hstock : ∀ batch ∈ s.batches.rows, batch.status = .available → 0 < batch.remainingQuantity)
    (hpositive : 0 < quantity) (henough : quantity ≤ availableStock s today product) :
    Deducted today product quantity s
      (saveBatches s ((consume (fefoBatches s today product) quantity).map Prod.fst))
      (consume (fefoBatches s today product) quantity) := by
  have hlocked : ∀ batch ∈ fefoBatches s today product, batch ∈ s.batches.rows ∧
      batch.isEligible today product ∧ batch.status = .available := by
    intro batch hbatch
    rcases mem_fefoBatches.1 hbatch with ⟨hrow, hproduct, hsellable⟩
    have hstatus : batch.status = .available := by
      simp only [ProductBatch.isSellable, decide_eq_true_eq] at hsellable
      exact hsellable.1
    exact ⟨hrow, ⟨hproduct, hsellable⟩, hstatus⟩
  rw [← sum_fefoBatches] at henough
  rcases consume_split (fefoBatches s today product) quantity
    (fun batch hbatch => hstock batch (hlocked batch hbatch).1 (hlocked batch hbatch).2.2)
    hpositive henough with ⟨drained, last, rest, take, hsplit, hconsume, htake, _, hsum⟩
  have hdrained : ∀ batch ∈ drained, batch ∈ fefoBatches s today product := by
    intro batch hbatch
    rw [hsplit]
    exact List.mem_append_left _ hbatch
  -- a consumed batch is one of the drained ones or the last
  have hcases : ∀ draw ∈ consume (fefoBatches s today product) quantity,
      (∃ front batch back, drained = front ++ batch :: back ∧ draw = batch.drain) ∨
        draw = (last.drawn take, take) := by
    intro draw hdraw
    rw [hconsume] at hdraw
    rcases List.mem_append.1 hdraw with hmap | hlast
    · rcases List.mem_map.1 hmap with ⟨batch, hbatch, rfl⟩
      rcases List.append_of_mem hbatch with ⟨front, back, hfront⟩
      exact .inl ⟨front, batch, back, hfront, rfl⟩
    · exact .inr (List.mem_singleton.1 hlast)
  have hemptied : ∀ batch ∈ drained, ∃ emptied,
      (saveBatches s ((consume (fefoBatches s today product) quantity).map
        Prod.fst)).batches.find batch.pk = some emptied ∧ emptied.remainingQuantity = 0 := by
    intro batch hbatch
    have hdraw : batch.drain ∈ consume (fefoBatches s today product) quantity := by
      rw [hconsume]
      exact List.mem_append_left _ (List.mem_map.2 ⟨batch, hbatch, rfl⟩)
    exact ⟨batch.drain.1, find_consumed hdraw, Int.sub_self _⟩
  have hsorted := pairwise_fefoBatches s today product
  refine
    { positive := ?_
      total := ?_
      once := nodup_consumed s today product quantity
      touched := ?_
      order := ?_
      others := ?_
      rest := rfl }
  · intro draw hdraw
    rcases hcases draw hdraw with ⟨front, batch, back, hfront, rfl⟩ | rfl
    · have hbatch : batch ∈ drained := by
        rw [hfront]
        exact List.mem_append_right _ List.mem_cons_self
      rcases hlocked batch (hdrained batch hbatch) with ⟨hrow, _, hstatus⟩
      exact hstock batch hrow hstatus
    · exact htake
  · rw [hconsume, List.map_append, List.sum_append, List.map_map]
    simpa [ProductBatch.drain, Function.comp_def] using hsum
  · intro draw hdraw
    rcases mem_consume hdraw with ⟨batch, hbatch, hEq⟩
    rcases hlocked batch hbatch with ⟨hrow, heligible, hstatus⟩
    have hfound := find_consumed hdraw
    have hkey : draw.1.pk = batch.pk := by rw [hEq]; rfl
    refine ⟨batch, hrow, heligible, hEq, ?_, ?_⟩
    · rw [← hkey]
      exact hfound
    · rw [hEq]
      simp [ProductBatch.drawn, hstatus]
  · intro draw hdraw earlier hrow heligible hbefore hne
    have hearlier : earlier ∈ fefoBatches s today product :=
      mem_fefoBatches.2 ⟨hrow, heligible.1, heligible.2⟩
    refine hemptied earlier ?_
    rcases hcases draw hdraw with ⟨front, batch, back, hfront, rfl⟩ | rfl
    · have hsplit' : fefoBatches s today product = front ++ batch :: (back ++ last :: rest) := by
        rw [hsplit, hfront, List.append_assoc, List.cons_append]
      rw [hsplit'] at hsorted hearlier
      rw [hfront]
      exact List.mem_append_left _ (mem_front_of_expiresBefore hsorted hearlier hbefore hne)
    · rw [hsplit] at hsorted hearlier
      exact mem_front_of_expiresBefore hsorted hearlier hbefore hne
  · intro k hk
    refine Table.find_putAll_of_ne _ s.batches ?_
    intro saved hsaved
    rcases List.mem_map.1 hsaved with ⟨draw, hdraw, rfl⟩
    exact hk draw hdraw

end Deduction

/-- In a store whose available batches have stock, a deduction of a positive quantity succeeds exactly
when the sellable total covers it, takes the quantity first expired, first out, and otherwise leaves
the store alone. -/
theorem fefo_deduction (clock : Clock) (product : Nat) (quantity : Int) (s : Store)
    (hstock : ∀ batch ∈ s.batches.rows, batch.status = .available → 0 < batch.remainingQuantity)
    (hpositive : 0 < quantity) :
    ((∃ s' consumed, deductProductBatch clock product quantity s = .ok (s', consumed)) ↔
      quantity ≤ availableStock s clock.today product) ∧
    (∀ s' consumed, deductProductBatch clock product quantity s = .ok (s', consumed) →
      Deducted clock.today product quantity s s' consumed) ∧
    (∀ e, deductProductBatch clock product quantity s = .error e →
      settle s ((deductProductBatch clock product quantity s).map Prod.fst) = s) := by
  refine ⟨⟨?_, ?_⟩, ?_, ?_⟩
  · rintro ⟨s', consumed, h⟩
    rw [← sum_fefoBatches]
    exact (deductProductBatch_ok h).2.1
  · intro henough
    refine ⟨saveBatches s ((consume (fefoBatches s clock.today product) quantity).map Prod.fst),
      consume (fefoBatches s clock.today product) quantity, ?_⟩
    unfold deductProductBatch
    rw [← sum_fefoBatches] at henough
    exact require_bind_eq_ok.2 ⟨hpositive, require_bind_eq_ok.2 ⟨henough, rfl⟩⟩
  · intro s' consumed h
    rcases deductProductBatch_ok h with ⟨_, henough, rfl, rfl⟩
    rw [sum_fefoBatches] at henough
    exact saveBatches_deducted hstock hpositive henough
  · intro e h
    rw [h]
    rfl

/-- A batch of the first product with its rest and its last day. -/
def shelved (remaining expirationDate : Int) (pk : Nat) : ProductBatch :=
  { pk := pk
    product := 1
    batchNumber := "PRD-2402-001"
    grade := none
    unitPrice := none
    initialQuantity := 1000
    remainingQuantity := remaining
    expirationDate := expirationDate
    dateReceived := 1
    status := .available
    isHistoricalReference := false
    notes := none
    createdAt := 86400 }

/-- Four batches that were not received in the order they expire; the last one is over on day 2. -/
def Store.shelf : Store :=
  { Store.empty Table.empty Table.empty with
    batches := (((Table.empty.create (shelved 300 9)).create (shelved 400 5)).create
      (shelved 500 7)).create (shelved 100 1) }

/-- The batch that expires first is emptied, the next one gives what is missing. -/
theorem fefo_deduction_sold :
    ∃ s' consumed, deductProductBatch { zone := Zone.fixed, now := 172800 } 1 700 Store.shelf =
        .ok (s', consumed) ∧
      Deducted 2 1 700 Store.shelf s' consumed ∧
      consumed.map (fun draw => (draw.1.pk, draw.2)) = [(2, 400), (3, 300)] := by
  have hdeduction := fefo_deduction { zone := Zone.fixed, now := 172800 } 1 700 Store.shelf
    (by decide) (by decide)
  rcases hdeduction.1.2 (by decide) with ⟨s', consumed, h⟩
  refine ⟨s', consumed, h, hdeduction.2.1 s' consumed h, ?_⟩
  rcases deductProductBatch_ok h with ⟨_, _, rfl, _⟩
  decide

end RosarioDairy
