import RosarioDairy.Store

/-!
# Payment — payment values and their later updates

`payment_values` decides what a payment stores; `update_encoding_payment` records a later payment
of an encoded sale without touching anything else.
-/

namespace RosarioDairy

open Foundations

/-- Parse an optional tender. -/
def parseTendered : Option DecimalInput → Except Error (Option Int)
  | none => return none
  | some value => (parseDecimal value "amount_tendered" (some 0) 20).map some

def paymentMethodError (method : String) : Error :=
  .valueError ("Invalid payment_method '" ++ method ++ "'. Must be cash or online.")

/-- What a payment stores: method, status, tender and change. -/
structure PaymentValues where
  method : PaymentMethod
  status : PaymentStatus
  amountTendered : Option Int
  changeDue : Option Int
  deriving DecidableEq, Repr

/-- The checked tender and change of a payment whose method and status are valid. -/
def settlePayment (total : Int) (method : PaymentMethod) (status : PaymentStatus)
    (tendered : Option Int) : Except Error PaymentValues :=
  match status, method, tendered with
  | .paid, .cash, none =>
      .error (.valueError "Amount tendered is required for cash payments.")
  | .paid, .cash, some amount =>
      if amount < total then
        .error (.valueError ("Amount tendered (" ++ Amount.text amount ++
          ") is less than the total due (" ++ Amount.text total ++ ")."))
      else
        .ok { method := method
              status := status
              amountTendered := some amount
              changeDue := some (amount - total) }
  | .paid, _, tendered =>
      .ok { method := method
            status := status
            amountTendered := tendered
            changeDue := none }
  | _, _, tendered =>
      if tendered = none ∨ tendered = some 0 then
        .ok { method := method
              status := status
              amountTendered := none
              changeDue := none }
      else
        .error (.valueError ("Pending payments cannot include an amount tendered. " ++
          "Partial payments are not supported."))

/-- `payment_values`. -/
def paymentValues (total : Int) (method status : String) (amountTendered : Option DecimalInput) :
    Except Error PaymentValues := do
  let method ← demand (PaymentMethod.ofValue? method) (paymentMethodError method)
  let status ← demand (PaymentStatus.ofValue? status)
    (.valueError "payment_status must be pending or paid.")
  let tendered ← parseTendered amountTendered
  settlePayment total method status tendered

/-- The optional arguments of a payment update; `none` is an argument that is not passed. -/
structure PaymentDetails where
  paymentMethod : Option String
  amountTendered : Option (Option DecimalInput)

/-- The payment columns of a sale, as `payment_values` would store them. -/
def Transaction.payment (sale : Transaction) : PaymentValues :=
  { method := sale.paymentMethod
    status := sale.paymentStatus
    amountTendered := sale.amountTendered
    changeDue := sale.changeDue }

/-- The row a changed payment saves. -/
def paidTransaction (clock : Clock) (user : User) (sale : Transaction) (values : PaymentValues) :
    Transaction :=
  { sale with
    paymentStatus := values.status
    paymentMethod := values.method
    amountTendered := values.amountTendered
    changeDue := values.changeDue
    paymentUpdatedAt := some clock.now
    paymentUpdatedBy := some user.pk }

/-- The branch of `update_encoding_payment` for a sale that is already paid: an identical retry
returns the saved row, anything else is refused. -/
def retryPayment (sale : Transaction) (paymentStatus : String) (details : PaymentDetails) :
    Except Error Unit := do
  let method := details.paymentMethod.getD sale.paymentMethod.value
  let tendered ← parseTendered
    (details.amountTendered.getD (sale.amountTendered.map .ofAmount))
  require (paymentStatus = "paid" ∧ method = sale.paymentMethod.value ∧
      tendered = sale.amountTendered)
    (.paymentLocked "Payment is already marked as paid and is read-only.")

/-- `update_encoding_payment`. -/
def updateEncodingPayment (clock : Clock) (saleId : Nat) (user : User) (paymentStatus : String)
    (details : PaymentDetails) (s : Store) : Except Error (Store × Transaction) := do
  let sale ← demand (s.transactions.find saleId) (.doesNotExist "Transaction")
  require (¬ (user.role = .staff ∧ sale.handledBy ≠ user.pk))
    (.valueError "This transaction is unavailable.")
  require (sale.encodedAt ≠ none)
    (.valueError "Only manually encoded transactions can use this payment update.")
  require (sale.isVoided = false)
    (.valueError "Payment cannot be updated on a voided transaction.")
  if sale.paymentStatus = .paid then
    let _ ← retryPayment sale paymentStatus details
    return (s, sale)
  else
    let method := details.paymentMethod.getD sale.paymentMethod.value
    let values ← paymentValues sale.totalAmount method paymentStatus
      (details.amountTendered.getD none)
    if sale.payment = values then
      return (s, sale)
    else
      let updated := paidTransaction clock user sale values
      return ({ s with transactions := s.transactions.put updated }, updated)

/-- What a successful update does: a paid sale is left alone, any other sale is left alone or
saved with the values `payment_values` accepts. -/
theorem updateEncodingPayment_ok {clock : Clock} {saleId : Nat} {user : User}
    {paymentStatus : String} {details : PaymentDetails} {s s' : Store} {saved : Transaction}
    (h : updateEncodingPayment clock saleId user paymentStatus details s = .ok (s', saved)) :
    ∃ sale, s.transactions.find saleId = some sale ∧ sale.encodedAt ≠ none ∧
      sale.isVoided = false ∧
      ((sale.paymentStatus = .paid ∧ s' = s) ∨
        (sale.paymentStatus ≠ .paid ∧ ∃ values,
          paymentValues sale.totalAmount (details.paymentMethod.getD sale.paymentMethod.value)
            paymentStatus (details.amountTendered.getD none) = .ok values ∧
          ((sale.payment = values ∧ s' = s) ∨
            (sale.payment ≠ values ∧ s' = { s with
              transactions := s.transactions.put (paidTransaction clock user sale values) })))) := by
  unfold updateEncodingPayment at h
  rcases demand_bind_eq_ok.1 h with ⟨sale, hsale, h⟩
  rcases require_bind_eq_ok.1 h with ⟨_, h⟩
  rcases require_bind_eq_ok.1 h with ⟨hencoded, h⟩
  rcases require_bind_eq_ok.1 h with ⟨hlive, h⟩
  refine ⟨sale, hsale, hencoded, hlive, ?_⟩
  by_cases hpaid : sale.paymentStatus = .paid
  · -- a paid sale answers a retry of the same payment and stays
    rw [if_pos hpaid] at h
    rcases bind_eq_ok.1 h with ⟨_, _, h⟩
    rcases pure_pair_eq_ok.1 h with ⟨hs', _⟩
    exact .inl ⟨hpaid, hs'.symm⟩
  · rw [if_neg hpaid] at h
    rcases bind_eq_ok.1 h with ⟨values, hvalues, h⟩
    refine .inr ⟨hpaid, values, hvalues, ?_⟩
    by_cases hsame : sale.payment = values
    · -- the same values again save nothing
      rw [if_pos hsame] at h
      rcases pure_pair_eq_ok.1 h with ⟨hs', _⟩
      exact .inl ⟨hsame, hs'.symm⟩
    · rw [if_neg hsame] at h
      rcases pure_pair_eq_ok.1 h with ⟨hs', _⟩
      exact .inr ⟨hsame, hs'.symm⟩

end RosarioDairy
