import RosarioDairy.Store
import RosarioDairy.Text

/-!
# BatchSerializer — receiving batches and editing their metadata

`ProdBatchSerializer`: field checks, `validate`, `create` with its monthly batch number and
`update`, which validates once more against the row it has locked.
-/

namespace RosarioDairy

open Foundations

/-! ## Batch numbers -/

/-- `generate_batch_number`: code, two-digit year, month and the sequence number. -/
def generateBatchNumber (code : String) (sequence : Nat) (businessDate : Int) : String :=
  code ++ "-" ++ zeroPad 2 (Day.year businessDate % 100) ++ zeroPad 2 (Day.month businessDate) ++
    "-" ++ zeroPad 3 sequence

example : generateBatchNumber "PRD" 7 738945 = "PRD-2402-007" := by decide

/-- `next_sequence`: get or create the counter of the month, advance it, return its value. -/
def nextSequence (s : Store) (code : String) (businessDate : Int) : Store × Nat :=
  let year := Day.year businessDate
  let month := Day.month businessDate
  let isRow (row : BatchSequence) : Bool :=
    row.code = code ∧ row.year = year ∧ row.month = month
  match s.batchSequences.find? isRow with
  | some row =>
      let advanced := { row with lastSeq := row.lastSeq + 1 }
      ({ s with batchSequences :=
          s.batchSequences.map (fun r => if isRow r then advanced else r) }, advanced.lastSeq)
  | none =>
      ({ s with batchSequences := s.batchSequences ++
          [{ code := code, year := year, month := month, lastSeq := 1 }] }, 1)

/-- Numbering touches no table but the counters. -/
theorem nextSequence_store (s : Store) (code : String) (businessDate : Int) :
    ∃ sequences, (nextSequence s code businessDate).1 = { s with batchSequences := sequences } := by
  unfold nextSequence
  dsimp only
  split
  · exact ⟨_, rfl⟩
  · exact ⟨_, rfl⟩

/-! ## Fields and validation -/

/-- The writable fields of a request; `none` is a field the request does not name. -/
structure BatchAttrs where
  product : Option Nat
  grade : Option (Option Grade)
  unitPrice : Option (Option Int)
  quantity : Option Int
  expirationDate : Option Int
  dateReceived : Option Int
  notes : Option (Option String)

/-- The same fields as the client sends them. -/
structure BatchInput where
  product : Option Nat
  grade : Option (Option Grade)
  unitPrice : Option (Option DecimalInput)
  quantity : Option DecimalInput
  expirationDate : Option Int
  dateReceived : Option Int
  notes : Option (Option String)

def isVisibleProduct (s : Store) (product : Product) : Bool :=
  match s.categories.find product.category with
  | some category => category.isActive && category.isVisibleToStaff
  | none => false

/-- The products the `product_id` field accepts from this user. -/
def selectableProduct (s : Store) (request : Option Role) (product : Product) : Bool :=
  product.isActive && (request != some .staff || isVisibleProduct s product)

def productField (s : Store) (request : Option Role) (product : Nat) : Except Error Nat :=
  match s.products.find product with
  | some row =>
      if selectableProduct s request row then .ok product
      else .error (.validationError "product_id" "Invalid pk - object does not exist.")
  | none => .error (.validationError "product_id" "Invalid pk - object does not exist.")

def decimalField (field : String) (least : Int) (value : DecimalInput) : Except Error Int :=
  match parseDecimal value field (some least) with
  | .ok amount => .ok amount
  | .error _ => .error (.validationError field "A valid number is required.")

/-- Check the optional field `value`; a field that is not named stays unnamed. -/
def optionalField {α β : Type} (check : α → Except Error β) : Option α → Except Error (Option β)
  | none => .ok none
  | some value => (check value).map some

/-- Field-level checks.  `full` requests must name every required field. -/
def checkFields (s : Store) (request : Option Role) (full : Bool) (input : BatchInput) :
    Except Error BatchAttrs := do
  require (full = true → input.product.isSome)
    (.validationError "product_id" "This field is required.")
  require (full = true → input.quantity.isSome)
    (.validationError "quantity" "This field is required.")
  require (full = true → input.expirationDate.isSome)
    (.validationError "expiration_date" "This field is required.")
  let product ← optionalField (productField s request) input.product
  let quantity ← optionalField (decimalField "quantity" 1) input.quantity
  let unitPrice ← optionalField (optionalField (decimalField "unit_price" 0)) input.unitPrice
  return { product := product
           grade := input.grade
           unitPrice := unitPrice
           quantity := quantity
           expirationDate := input.expirationDate
           dateReceived := input.dateReceived
           notes := input.notes }

/-- Only an admin may override a price; for anyone else an unchanged price is dropped. -/
def checkUnitPrice (request : Option Role) (current : Option ProductBatch) (attrs : BatchAttrs) :
    Except Error BatchAttrs :=
  match request, attrs.unitPrice with
  | some .staff, some price =>
      if price = current.bind ProductBatch.unitPrice then .ok { attrs with unitPrice := none }
      else .error (.validationError "unit_price" "Only an admin can override prices.")
  | _, _ => .ok attrs

/-- The receipt date a request leads to. -/
def effectiveReceived (clock : Clock) (current : Option ProductBatch) (attrs : BatchAttrs) : Int :=
  match current with
  | some batch => attrs.dateReceived.getD batch.dateReceived
  | none => attrs.dateReceived.getD clock.today

/-- The expiration date a request leads to, if it names or inherits one. -/
def effectiveExpiration (current : Option ProductBatch) (attrs : BatchAttrs) : Option Int :=
  match current with
  | some batch => some (attrs.expirationDate.getD batch.expirationDate)
  | none => attrs.expirationDate

/-- `ProdBatchSerializer.validate`. -/
def validate (clock : Clock) (request : Option Role) (current : Option ProductBatch)
    (attrs : BatchAttrs) : Except Error BatchAttrs := do
  let attrs ← checkUnitPrice request current attrs
  require (∀ batch ∈ current, ∀ product ∈ attrs.product, product = batch.product)
    (.validationError "product_id" "A batch cannot be reassigned to another product.")
  require (∀ expiration ∈ effectiveExpiration current attrs,
      effectiveReceived clock current attrs ≤ expiration)
    (.validationError "expiration_date" "Expiration date cannot be before date received.")
  require (effectiveReceived clock current attrs ≤ clock.today)
    (.validationError "date_received" "Date received cannot be in the future.")
  return attrs

/-- Validation drops at most the unit price. -/
theorem checkUnitPrice_ok {request : Option Role} {current : Option ProductBatch}
    {attrs attrs' : BatchAttrs} (h : checkUnitPrice request current attrs = .ok attrs') :
    attrs' = { attrs with unitPrice := attrs'.unitPrice } := by
  unfold checkUnitPrice at h
  split at h
  · split at h
    · have hEq : { attrs with unitPrice := none } = attrs' := by simpa using h
      rw [← hEq]
    · cases h
  · have hEq : attrs = attrs' := by simpa using h
    rw [← hEq]

/-- What `validate` guarantees: the dates a request leads to are in order and not in the future,
and nothing but the unit price was dropped. -/
theorem validate_ok {clock : Clock} {request : Option Role} {current : Option ProductBatch}
    {attrs attrs' : BatchAttrs} (h : validate clock request current attrs = .ok attrs') :
    attrs' = { attrs with unitPrice := attrs'.unitPrice } ∧
      (∀ expiration ∈ effectiveExpiration current attrs',
        effectiveReceived clock current attrs' ≤ expiration) ∧
      effectiveReceived clock current attrs' ≤ clock.today := by
  unfold validate at h
  rcases bind_eq_ok.1 h with ⟨attrs₁, hprice, h⟩
  rcases require_bind_eq_ok.1 h with ⟨_, h⟩
  rcases require_bind_eq_ok.1 h with ⟨horder, h⟩
  rcases require_bind_eq_ok.1 h with ⟨hpast, h⟩
  have hEq : attrs₁ = attrs' := pure_eq_ok.1 h
  subst hEq
  exact ⟨checkUnitPrice_ok hprice, horder, hpast⟩

/-- An accepted quantity is at least one hundredth. -/
theorem decimalField_le {field : String} {least : Int} {value : DecimalInput} {amount : Int}
    (h : decimalField field least value = .ok amount) : least ≤ amount := by
  unfold decimalField at h
  split at h
  · rename_i accepted hparse
    have hEq : accepted = amount := by simpa using h
    exact hEq ▸ parseDecimal_le hparse
  · cases h

theorem optionalField_some {α β : Type} {check : α → Except Error β} {value : Option α} {b : β}
    (h : optionalField check value = .ok (some b)) : ∃ a, value = some a ∧ check a = .ok b := by
  cases value with
  | none => simp [optionalField] at h
  | some a =>
      refine ⟨a, rfl, ?_⟩
      cases hcheck : check a with
      | error e => simp [optionalField, hcheck, Except.map] at h
      | ok b' =>
          have hEq : b' = b := by simpa [optionalField, hcheck, Except.map] using h
          rw [hEq]

theorem checkFields_quantity {s : Store} {request : Option Role} {full : Bool}
    {input : BatchInput} {attrs : BatchAttrs} (h : checkFields s request full input = .ok attrs) :
    ∀ quantity ∈ attrs.quantity, 1 ≤ quantity := by
  unfold checkFields at h
  rcases require_bind_eq_ok.1 h with ⟨_, h⟩
  rcases require_bind_eq_ok.1 h with ⟨_, h⟩
  rcases require_bind_eq_ok.1 h with ⟨_, h⟩
  rcases bind_eq_ok.1 h with ⟨_, _, h⟩
  rcases bind_eq_ok.1 h with ⟨quantity, hquantity, h⟩
  rcases bind_eq_ok.1 h with ⟨_, _, h⟩
  have hEq := pure_eq_ok.1 h
  subst hEq
  intro amount hamount
  have hsome : quantity = some amount := by simpa using hamount
  subst hsome
  rcases optionalField_some hquantity with ⟨value, _, hvalue⟩
  exact decimalField_le hvalue

/-! ## Create and update -/

/-- The row a validated creation inserts under the key `pk`. -/
def newBatch (clock : Clock) (attrs : BatchAttrs) (product : Nat) (quantity expirationDate : Int)
    (batchNumber : String) (pk : Nat) : ProductBatch :=
  { pk := pk
    product := product
    batchNumber := batchNumber
    grade := attrs.grade.getD none
    unitPrice := attrs.unitPrice.getD none
    initialQuantity := quantity
    remainingQuantity := quantity
    expirationDate := expirationDate
    dateReceived := attrs.dateReceived.getD clock.today
    status := .available
    isHistoricalReference := false
    notes := attrs.notes.getD none
    createdAt := clock.now }

/-- `ProdBatchSerializer.create` behind `is_valid`. -/
def createBatch (clock : Clock) (request : Option Role) (input : BatchInput) (s : Store) :
    Except Error (Store × ProductBatch) := do
  let attrs ← checkFields s request true input
  let attrs ← validate clock request none attrs
  let product ← demand attrs.product (.validationError "product_id" "This field is required.")
  let quantity ← demand attrs.quantity (.validationError "quantity" "This field is required.")
  let expirationDate ← demand attrs.expirationDate
    (.validationError "expiration_date" "This field is required.")
  let (s, sequence) := nextSequence s "PRD" clock.today
  let batchNumber := generateBatchNumber "PRD" sequence clock.today
  require (∀ batch ∈ s.batches.rows, batch.batchNumber ≠ batchNumber)
    (.integrityError "inventory_productbatch_batch_number_key")
  let mk := newBatch clock attrs product quantity expirationDate batchNumber
  return ({ s with batches := s.batches.create mk }, mk s.batches.next)

/-- What a successful creation does: one new available batch, full to its initial quantity. -/
theorem createBatch_ok {clock : Clock} {request : Option Role} {input : BatchInput} {s s' : Store}
    {batch : ProductBatch} (h : createBatch clock request input s = .ok (s', batch)) :
    ∃ attrs product quantity expirationDate batchNumber sequences,
      1 ≤ quantity ∧
      attrs.dateReceived.getD clock.today ≤ expirationDate ∧
      attrs.dateReceived.getD clock.today ≤ clock.today ∧
      s' = { s with
        batchSequences := sequences
        batches := s.batches.create
          (newBatch clock attrs product quantity expirationDate batchNumber) } := by
  unfold createBatch at h
  rcases bind_eq_ok.1 h with ⟨fields, hfields, h⟩
  rcases bind_eq_ok.1 h with ⟨attrs, hattrs, h⟩
  rcases demand_bind_eq_ok.1 h with ⟨product, _, h⟩
  rcases demand_bind_eq_ok.1 h with ⟨quantity, hquantity, h⟩
  rcases demand_bind_eq_ok.1 h with ⟨expirationDate, hexpiration, h⟩
  rcases nextSequence_store s "PRD" clock.today with ⟨sequences, hstore⟩
  rcases hnext : nextSequence s "PRD" clock.today with ⟨s₁, sequence⟩
  rw [hnext] at h hstore
  have hs₁ : s₁ = { s with batchSequences := sequences } := hstore
  subst hs₁
  rcases require_bind_eq_ok.1 h with ⟨_, h⟩
  rcases pure_pair_eq_ok.1 h with ⟨hs', _⟩
  rcases validate_ok hattrs with ⟨hkeep, horder, hpast⟩
  refine ⟨attrs, product, quantity, expirationDate,
    generateBatchNumber "PRD" sequence clock.today, sequences, ?_, ?_, hpast, hs'.symm⟩
  · rw [hkeep] at hquantity
    exact checkFields_quantity hfields quantity hquantity
  · exact horder expirationDate hexpiration

/-- The locked row with the supplied attributes set; quantities and status are read-only. -/
def editedBatch (batch : ProductBatch) (attrs : BatchAttrs) : ProductBatch :=
  { batch with
    grade := attrs.grade.getD batch.grade
    unitPrice := attrs.unitPrice.getD batch.unitPrice
    expirationDate := attrs.expirationDate.getD batch.expirationDate
    dateReceived := attrs.dateReceived.getD batch.dateReceived
    notes := attrs.notes.getD batch.notes }

/-- `ProdBatchSerializer.update` behind `is_valid`: the request is validated against the row that
was loaded and once more against the row that is locked. -/
def updateBatch (clock : Clock) (request : Option Role) (full : Bool) (batch : Nat)
    (input : BatchInput) (s : Store) : Except Error (Store × ProductBatch) := do
  let loaded ← demand (s.batches.find batch) (.doesNotExist "ProductBatch")
  let attrs ← checkFields s request full input
  let attrs ← validate clock request (some loaded) attrs
  let current ← demand (s.batches.find batch) (.doesNotExist "ProductBatch")
  let attrs ← validate clock request (some current) { attrs with quantity := none }
  let edited := editedBatch current attrs
  return ({ s with batches := s.batches.put edited }, edited)

/-- What a successful update does: it saves the locked row with other metadata, and the dates it
leads to are in order and not in the future. -/
theorem updateBatch_ok {clock : Clock} {request : Option Role} {full : Bool} {batch : Nat}
    {input : BatchInput} {s s' : Store} {edited : ProductBatch}
    (h : updateBatch clock request full batch input s = .ok (s', edited)) :
    ∃ current attrs,
      s.batches.find batch = some current ∧
      edited = editedBatch current attrs ∧
      edited.dateReceived ≤ edited.expirationDate ∧
      edited.dateReceived ≤ clock.today ∧
      s' = { s with batches := s.batches.put edited } := by
  unfold updateBatch at h
  rcases demand_bind_eq_ok.1 h with ⟨loaded, _, h⟩
  rcases bind_eq_ok.1 h with ⟨fields, _, h⟩
  rcases bind_eq_ok.1 h with ⟨attrs₁, _, h⟩
  rcases demand_bind_eq_ok.1 h with ⟨current, hcurrent, h⟩
  rcases bind_eq_ok.1 h with ⟨attrs, hattrs, h⟩
  rcases pure_pair_eq_ok.1 h with ⟨hs', rfl⟩
  rcases validate_ok hattrs with ⟨_, horder, hpast⟩
  exact ⟨current, attrs, hcurrent, rfl, horder _ rfl, hpast, hs'.symm⟩

end RosarioDairy
