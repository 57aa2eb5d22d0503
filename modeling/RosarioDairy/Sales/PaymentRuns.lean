import RosarioDairy.Outcomes

/-!
# PaymentRuns — the payment of a sale over its life

A sale starts out pending or paid with consistent values.  Updates keep the values consistent, a
paid or a voided sale never changes its payment again, and repeating an accepted update is
harmless.
-/

namespace RosarioDairy

open Foundations

/-! ## Consistent values -/

/-- The columns of a payment fit together: a pending payment has no tender, a cash payment covers
the total and gives the rest back, any other payment gives no change. -/
structure PaymentValues.Sound (total : Int) (values : PaymentValues) : Prop where
  status : values.status = .pending ∨ values.status = .paid
  method : values.method = .cash ∨ values.method = .online
  pending : values.status = .pending → values.amountTendered = none ∧ values.changeDue = none
  cash : values.status = .paid → values.method = .cash →
    ∃ tendered, values.amountTendered = some tendered ∧ total ≤ tendered ∧
      values.changeDue = some (tendered - total)
  online : values.status = .paid → values.method = .online → values.changeDue = none

theorem PaymentMethod.ofValue?_eq_some {text : String} {method : PaymentMethod}
    (h : PaymentMethod.ofValue? text = some method) :
    (method = .cash ∨ method = .online) ∧ method.value = text := by
  unfold PaymentMethod.ofValue? at h
  split at h
  · have hEq : PaymentMethod.cash = method := by simpa using h
    exact hEq ▸ ⟨.inl rfl, rfl⟩
  · have hEq : PaymentMethod.online = method := by simpa using h
    exact hEq ▸ ⟨.inr rfl, rfl⟩
  · cases h

theorem PaymentStatus.ofValue?_eq_some {text : String} {status : PaymentStatus}
    (h : PaymentStatus.ofValue? text = some status) :
    (status = .pending ∧ text = "pending") ∨ (status = .paid ∧ text = "paid") := by
  unfold PaymentStatus.ofValue? at h
  split at h
  · have hEq : PaymentStatus.pending = status := by simpa using h
    exact hEq ▸ .inl ⟨rfl, rfl⟩
  · have hEq : PaymentStatus.paid = status := by simpa using h
    exact hEq ▸ .inr ⟨rfl, rfl⟩
  · cases h

/-- What `payment_values` stores: the chosen method and status, consistent amounts, and for a paid
sale the tender as parsed. -/
theorem settlePayment_ok {total : Int} {method : PaymentMethod} {status : PaymentStatus}
    {tendered : Option Int} {values : PaymentValues}
    (hmethod : method = .cash ∨ method = .online) (hstatus : status = .pending ∨ status = .paid)
    (h : settlePayment total method status tendered = .ok values) :
    values.method = method ∧ values.status = status ∧
      (status = .paid → values.amountTendered = tendered) ∧ values.Sound total := by
  unfold settlePayment at h
  split at h
  · cases h
  · split at h
    · cases h
    · -- cash covers the total, and the rest is the change
      rename_i amount henough
      have hEq := Except.ok.inj h
      subst hEq
      refine ⟨rfl, rfl, fun _ => rfl, ?_⟩
      exact
        { status := .inr rfl
          method := .inl rfl
          pending := fun hpending => by cases hpending
          cash := fun _ _ => ⟨amount, rfl, by omega, rfl⟩
          online := fun _ honline => by cases honline }
  · -- a paid sale that is not in cash is online, without change
    rename_i hnot₁ hnot₂
    have hEq := Except.ok.inj h
    subst hEq
    have honline : method = .online := by
      rcases hmethod with hcash | honline
      · cases htender : tendered with
        | none => exact absurd htender (hnot₁ hcash)
        | some amount => exact absurd htender (hnot₂ amount hcash)
      · exact honline
    subst honline
    refine ⟨rfl, rfl, fun _ => rfl, ?_⟩
    exact
      { status := .inr rfl
        method := .inr rfl
        pending := fun hpending => by cases hpending
        cash := fun _ hcash => by cases hcash
        online := fun _ _ => rfl }
  · rename_i hnotPaid _ _
    -- what is not paid is pending
    have hpending : status = .pending := by
      rcases hstatus with hpending | hpaid
      · exact hpending
      · exact absurd hpaid hnotPaid
    subst hpending
    -- a pending payment may not name an amount
    split at h
    · have hEq := Except.ok.inj h
      subst hEq
      refine ⟨rfl, rfl, fun hpaid => (by cases hpaid), ?_⟩
      exact
        { status := .inl rfl
          method := hmethod
          pending := fun _ => ⟨rfl, rfl⟩
          cash := fun hpaid _ => by cases hpaid
          online := fun hpaid _ => by cases hpaid }
    · cases h

theorem paymentValues_ok {total : Int} {method status : String} {tendered : Option DecimalInput}
    {values : PaymentValues} (h : paymentValues total method status tendered = .ok values) :
    values.method.value = method ∧
      (values.status = .pending ∧ status = "pending" ∨ values.status = .paid ∧ status = "paid") ∧
      (values.status = .paid → parseTendered tendered = .ok values.amountTendered) ∧
      values.Sound total := by
  unfold paymentValues at h
  rcases demand_bind_eq_ok.1 h with ⟨method', hmethod, h⟩
  rcases demand_bind_eq_ok.1 h with ⟨status', hstatus, h⟩
  rcases bind_eq_ok.1 h with ⟨parsed, hparsed, h⟩
  rcases PaymentMethod.ofValue?_eq_some hmethod with ⟨hkind, hvalue⟩
  have hcases := PaymentStatus.ofValue?_eq_some hstatus
  have hstatus' : status' = .pending ∨ status' = .paid := by
    rcases hcases with ⟨hpending, _⟩ | ⟨hpaid, _⟩
    · exact .inl hpending
    · exact .inr hpaid
  rcases settlePayment_ok hkind hstatus' h with ⟨rfl, rfl, htendered, hsound⟩
  refine ⟨hvalue, hcases, ?_, hsound⟩
  intro hpaid
  rw [htendered hpaid]
  exact hparsed

theorem priceSale_payment {args : SaleArgs} {priced : PricedSale}
    (h : priceSale args = .ok priced) : priced.payment.Sound priced.total := by
  unfold priceSale at h
  rcases demand_bind_eq_ok.1 h with ⟨_, _, h⟩
  rcases bind_eq_ok.1 h with ⟨_, _, h⟩
  rcases bind_eq_ok.1 h with ⟨lines, _, h⟩
  rcases bind_eq_ok.1 h with ⟨payment, hpayment, h⟩
  have hEq := pure_eq_ok.1 h
  subst hEq
  exact (paymentValues_ok hpayment).2.2.2

/-- The payment of a transaction row is consistent with its total. -/
def Transaction.PaymentSound (sale : Transaction) : Prop := sale.payment.Sound sale.totalAmount

/-! ## Frozen payments -/

/-- Everything an update may write: method, status, tender, change, and who changed them when. -/
def Transaction.paymentRecord (sale : Transaction) : PaymentValues × Option Int × Option Nat :=
  (sale.payment, sale.paymentUpdatedAt, sale.paymentUpdatedBy)

/-- The payment of a paid or voided sale is final. -/
def Transaction.IsFinal (sale : Transaction) : Prop :=
  sale.paymentStatus = .paid ∨ sale.isVoided = true

/-- The row of a sale satisfies `P`. -/
def Store.SaleWith (txn : Nat) (P : Transaction → Prop) (s : Store) : Prop :=
  ∃ sale, s.transactions.find txn = some sale ∧ P sale

/-- What an operation may do to the row of a sale that exists: leave it, void it, or save another
payment if it is neither paid nor voided. -/
theorem Outcome.sale_cases {clock : Clock} {op : Operation} {s s' : Store} {txn : Nat}
    {sale : Transaction} (h : Outcome clock op s s')
    (hfind : s.transactions.find txn = some sale) :
    ∃ sale', s'.transactions.find txn = some sale' ∧
      (sale' = sale ∨
        (∃ voidedBy reason, sale.isVoided = false ∧
          sale' = voidedTransaction clock voidedBy reason sale) ∨
        ∃ user values, sale.paymentStatus ≠ .paid ∧ sale.isVoided = false ∧
          values.Sound sale.totalAmount ∧ sale' = paidTransaction clock user sale values) := by
  cases h with
  | unchanged => exact ⟨sale, hfind, .inl rfl⟩
  | received => exact ⟨sale, hfind, .inl rfl⟩
  | edited => exact ⟨sale, hfind, .inl rfl⟩
  | sold s' made heffect hmovement =>
      rcases Table.find_eq_some.1 hfind with ⟨hmem, hpk⟩
      refine ⟨sale, Table.find_eq_some.2 ⟨?_, hpk⟩, .inl rfl⟩
      simp [heffect.transactions, hmem]
  | adjusted => exact ⟨sale, hfind, .inl rfl⟩
  | voided row s₁ skipped voidedBy reason hrow hlocal hlive hitems =>
      -- voiding changes the row of its sale and no other
      have hput := Table.find_put s.transactions (voidedTransaction clock voidedBy reason row) txn
      by_cases hpk : txn = row.pk
      · subst hpk
        have hEq : row = sale := Option.some.inj (hrow.symm.trans hfind)
        subst hEq
        have hkey : row.pk = Row.pk (voidedTransaction clock voidedBy reason row) := rfl
        rw [if_pos hkey, hfind] at hput
        exact ⟨_, hput, .inr (.inl ⟨voidedBy, reason, hlive, rfl⟩)⟩
      · have hne : ¬ txn = Row.pk (voidedTransaction clock voidedBy reason row) := hpk
        rw [if_neg hne] at hput
        exact ⟨sale, hput.trans hfind, .inl rfl⟩
  | paid row user method status tendered values hrow hlive hstatus hvalues =>
      -- so does paying
      have hput := Table.find_put s.transactions (paidTransaction clock user row values) txn
      by_cases hpk : txn = row.pk
      · subst hpk
        have hEq : row = sale := Option.some.inj (hrow.symm.trans hfind)
        subst hEq
        have hkey : row.pk = Row.pk (paidTransaction clock user row values) := rfl
        rw [if_pos hkey, hfind] at hput
        exact ⟨_, hput, .inr (.inr ⟨user, values, hstatus, hlive,
          (paymentValues_ok hvalues).2.2.2, rfl⟩)⟩
      · have hne : ¬ txn = Row.pk (paidTransaction clock user row values) := hpk
        rw [if_neg hne] at hput
        exact ⟨sale, hput.trans hfind, .inl rfl⟩

theorem Outcome.paymentSound {clock : Clock} {op : Operation} {s s' : Store} {txn : Nat}
    (hs : s.SaleWith txn Transaction.PaymentSound) (h : Outcome clock op s s') :
    s'.SaleWith txn Transaction.PaymentSound := by
  rcases hs with ⟨sale, hfind, hsound⟩
  rcases h.sale_cases hfind with ⟨sale', hfind', rfl | ⟨_, _, _, rfl⟩ | ⟨_, _, _, _, hvalues, rfl⟩⟩
  · exact ⟨_, hfind', hsound⟩
  · exact ⟨_, hfind', hsound⟩
  · exact ⟨_, hfind', hvalues⟩

theorem Outcome.final {clock : Clock} {op : Operation} {s s' : Store} {txn : Nat}
    {record : PaymentValues × Option Int × Option Nat}
    (hs : s.SaleWith txn (fun sale => sale.IsFinal ∧ sale.paymentRecord = record))
    (h : Outcome clock op s s') :
    s'.SaleWith txn (fun sale => sale.IsFinal ∧ sale.paymentRecord = record) := by
  rcases hs with ⟨sale, hfind, hfinal, hrecord⟩
  rcases h.sale_cases hfind with
    ⟨sale', hfind', rfl | ⟨_, _, _, rfl⟩ | ⟨_, _, hpaid, hlive, _, rfl⟩⟩
  · exact ⟨_, hfind', hfinal, hrecord⟩
  · exact ⟨_, hfind', .inr rfl, hrecord⟩
  · rcases hfinal with hstatus | hvoided
    · exact absurd hstatus hpaid
    · rw [hlive] at hvoided
      cases hvoided

/-! ## Repeating an accepted update -/

/-- The retry branch accepts the arguments whose update was just saved. -/
theorem retryPayment_saved {sale saved : Transaction} {paymentStatus : String}
    {details : PaymentDetails} {values : PaymentValues}
    (hvalues : paymentValues sale.totalAmount
      (details.paymentMethod.getD sale.paymentMethod.value) paymentStatus
      (details.amountTendered.getD none) = .ok values)
    (hpayment : saved.payment = values) (hpaid : values.status = .paid) :
    retryPayment saved paymentStatus details = .ok () := by
  rcases paymentValues_ok hvalues with ⟨hmethod, hstatus, htendered, hsound⟩
  have hmethod' : saved.paymentMethod.value =
      details.paymentMethod.getD sale.paymentMethod.value := by
    rw [← hmethod, ← hpayment]
    rfl
  have htext : paymentStatus = "paid" := by
    rcases hstatus with ⟨hpending, _⟩ | ⟨_, htext⟩
    · rw [hpaid] at hpending
      cases hpending
    · exact htext
  have htendered' := htendered hpaid
  have hsaved : values.amountTendered = saved.amountTendered := by
    rw [← hpayment]
    rfl
  rw [hsaved] at htendered'
  unfold retryPayment
  refine bind_eq_ok.2 ⟨saved.amountTendered, ?_, ?_⟩
  · cases hgiven : details.amountTendered with
    | some tendered =>
        rw [hgiven] at htendered'
        exact htendered'
    | none =>
        -- no tender was passed, so none was stored
        rw [hgiven] at htendered'
        have hnone : none = saved.amountTendered := by
          simpa [parseTendered] using htendered'
        rw [← hnone]
        rfl
  · refine require_eq_ok.2 ⟨htext, ?_, rfl⟩
    cases hgiven : details.paymentMethod with
    | some method =>
        rw [hgiven] at hmethod'
        exact hmethod'.symm
    | none => rfl

/-- Repeating the values gives the values: the method falls back to the one just saved. -/
theorem paymentValues_saved {sale saved : Transaction} {paymentStatus : String}
    {details : PaymentDetails} {values : PaymentValues}
    (hvalues : paymentValues sale.totalAmount
      (details.paymentMethod.getD sale.paymentMethod.value) paymentStatus
      (details.amountTendered.getD none) = .ok values)
    (hpayment : saved.payment = values) (htotal : saved.totalAmount = sale.totalAmount) :
    paymentValues saved.totalAmount (details.paymentMethod.getD saved.paymentMethod.value)
      paymentStatus (details.amountTendered.getD none) = .ok values := by
  have hmethod : details.paymentMethod.getD saved.paymentMethod.value =
      details.paymentMethod.getD sale.paymentMethod.value := by
    cases hgiven : details.paymentMethod with
    | some method => rfl
    | none =>
        have hvalue := (paymentValues_ok hvalues).1
        rw [hgiven, ← hpayment] at hvalue
        exact hvalue
  rw [htotal, hmethod]
  exact hvalues

/-- An update accepted once and repeated at once succeeds with the same row and changes nothing. -/
theorem updateEncodingPayment_repeat {clock clock' : Clock} {saleId : Nat} {user : User}
    {paymentStatus : String} {details : PaymentDetails} {s s' : Store} {saved : Transaction}
    (h : updateEncodingPayment clock saleId user paymentStatus details s = .ok (s', saved)) :
    updateEncodingPayment clock' saleId user paymentStatus details s' = .ok (s', saved) := by
  unfold updateEncodingPayment at h
  rcases demand_bind_eq_ok.1 h with ⟨sale, hsale, h⟩
  rcases require_bind_eq_ok.1 h with ⟨hrole, h⟩
  rcases require_bind_eq_ok.1 h with ⟨hencoded, h⟩
  rcases require_bind_eq_ok.1 h with ⟨hlive, h⟩
  unfold updateEncodingPayment
  by_cases hpaid : sale.paymentStatus = .paid
  · -- a sale that was paid already answered without saving, and does so again
    rw [if_pos hpaid] at h
    rcases bind_eq_ok.1 h with ⟨_, hretry, h⟩
    rcases pure_pair_eq_ok.1 h with ⟨rfl, rfl⟩
    refine demand_bind_eq_ok.2 ⟨sale, hsale, require_bind_eq_ok.2 ⟨hrole,
      require_bind_eq_ok.2 ⟨hencoded, require_bind_eq_ok.2 ⟨hlive, ?_⟩⟩⟩⟩
    rw [if_pos hpaid]
    exact bind_eq_ok.2 ⟨(), hretry, rfl⟩
  · rw [if_neg hpaid] at h
    rcases bind_eq_ok.1 h with ⟨values, hvalues, h⟩
    by_cases hsame : sale.payment = values
    · -- the same for values that were there already
      rw [if_pos hsame] at h
      rcases pure_pair_eq_ok.1 h with ⟨rfl, rfl⟩
      refine demand_bind_eq_ok.2 ⟨sale, hsale, require_bind_eq_ok.2 ⟨hrole,
        require_bind_eq_ok.2 ⟨hencoded, require_bind_eq_ok.2 ⟨hlive, ?_⟩⟩⟩⟩
      rw [if_neg hpaid]
      exact bind_eq_ok.2 ⟨values, hvalues, by rw [if_pos hsame]; rfl⟩
    · rw [if_neg hsame] at h
      rcases pure_pair_eq_ok.1 h with ⟨rfl, rfl⟩
      -- now the sale carries the values that were saved
      have hfind : (s.transactions.put (paidTransaction clock user sale values)).find saleId =
          some (paidTransaction clock user sale values) := by
        have hput := Table.find_put s.transactions (paidTransaction clock user sale values) saleId
        have hpk : saleId = Row.pk (paidTransaction clock user sale values) :=
          (Table.find_eq_some.1 hsale).2.symm
        rw [if_pos hpk, hsale] at hput
        exact hput
      refine demand_bind_eq_ok.2 ⟨paidTransaction clock user sale values, hfind,
        require_bind_eq_ok.2 ⟨hrole, require_bind_eq_ok.2 ⟨hencoded,
          require_bind_eq_ok.2 ⟨hlive, ?_⟩⟩⟩⟩
      -- a repeat of a payment meets a paid sale, a repeat of a change finds its values in place
      by_cases hnowPaid : values.status = .paid
      · have hstatus : (paidTransaction clock user sale values).paymentStatus = .paid := hnowPaid
        rw [if_pos hstatus]
        exact bind_eq_ok.2 ⟨(), retryPayment_saved hvalues rfl hnowPaid, rfl⟩
      · have hstatus : ¬ (paidTransaction clock user sale values).paymentStatus = .paid := hnowPaid
        have hpayment : (paidTransaction clock user sale values).payment = values := rfl
        rw [if_neg hstatus]
        exact bind_eq_ok.2 ⟨values, paymentValues_saved hvalues rfl rfl,
          by rw [if_pos hpayment]; rfl⟩

/-! ## Histories -/

/-- The call made the sale `txn`: a checkout, or an encoding request that was not a replay. -/
def CreatesSale (env : Deployment) (now : Int) (s s' : Store) (txn : Nat) : Prop :=
  (∃ args, checkout env.table { zone := env.zone, now := now } args s = .ok (s', txn)) ∨
    ∃ args, encodeTransaction env.table env.digest { zone := env.zone, now := now } args s =
      .ok (s', txn, true)

/-- A new sale has a consistent payment. -/
theorem SaleEffect.saleWith {clock : Clock} {s s' : Store} {sale : Transaction}
    (h : SaleEffect clock s s' sale) :
    s'.SaleWith s.transactions.next Transaction.PaymentSound := by
  refine ⟨sale, Table.find_eq_some.2 ⟨by simp [h.transactions], h.pk⟩, ?_⟩
  rcases h.payment with ⟨args, priced, hpriced, htotal, hpayment⟩
  unfold Transaction.PaymentSound
  rw [htotal, hpayment]
  exact priceSale_payment hpriced

theorem CreatesSale.saleWith {env : Deployment} {now : Int} {s s' : Store} {txn : Nat}
    (h : CreatesSale env now s s' txn) : s'.SaleWith txn Transaction.PaymentSound := by
  rcases h with ⟨args, hcheckout⟩ | ⟨args, hencode⟩
  · rcases checkout_ok hcheckout with ⟨_, _, _, _, hclose⟩
    have htxn : txn = s.transactions.next := (closeSale_ok hclose).1
    rcases checkout_effect hcheckout with ⟨_, _, heffect⟩
    rw [htxn]
    exact heffect.saleWith
  · rcases encodeTransaction_ok hencode with ⟨_, _, _, ⟨_, _, _, _, _, hcreated⟩ | ⟨_, _, hwrite⟩⟩
    · cases hcreated
    · rcases writeEncodedWith_ok hwrite with ⟨_, _, hsale, _, _, _⟩
      have htxn : txn = s.transactions.next := (encodedSale_ok hsale).1
      rcases writeEncoded_effect hwrite with ⟨_, _, _, _, heffect⟩
      rw [htxn]
      exact heffect.saleWith

/-- The payment state machine: a sale made by a checkout or an encoding request exists after every
history with a consistent payment; once it is paid or voided its payment record is final; an
accepted update can be repeated at once without effect; a rejected call changes nothing. -/
theorem payment_machine (env : Deployment) (now : Int) (s₀ s₁ : Store) (txn : Nat)
    (hcreate : CreatesSale env now s₀ s₁ txn) (history : List Call) :
    (∃ sale, (replay env s₁ history).transactions.find txn = some sale ∧
      (sale.paymentStatus = .pending → sale.amountTendered = none ∧ sale.changeDue = none) ∧
      (sale.paymentStatus = .paid → sale.paymentMethod = .cash →
        ∃ tendered, sale.amountTendered = some tendered ∧ sale.totalAmount ≤ tendered ∧
          sale.changeDue = some (tendered - sale.totalAmount)) ∧
      (sale.paymentStatus = .paid → sale.paymentMethod = .online → sale.changeDue = none) ∧
      (sale.paymentStatus = .paid ∨ sale.isVoided = true → ∀ later,
        ∃ sale', (replay env (replay env s₁ history) later).transactions.find txn = some sale' ∧
          sale'.paymentRecord = sale.paymentRecord)) ∧
    (∀ clock clock' user paymentStatus details s' saved,
      updateEncodingPayment clock txn user paymentStatus details (replay env s₁ history) =
          .ok (s', saved) →
        updateEncodingPayment clock' txn user paymentStatus details s' = .ok (s', saved)) ∧
    (∀ call e, perform env call.now call.op (replay env s₁ history) = .error e →
      step env (replay env s₁ history) call = replay env s₁ history) := by
  have hsale : (replay env s₁ history).SaleWith txn Transaction.PaymentSound :=
    replay_outcome (P := Store.SaleWith txn Transaction.PaymentSound)
      (fun _ _ _ _ hs houtcome => houtcome.paymentSound hs) history hcreate.saleWith
  rcases hsale with ⟨sale, hfind, hsound⟩
  refine ⟨⟨sale, hfind, hsound.pending, hsound.cash, hsound.online, ?_⟩, ?_, ?_⟩
  · -- a paid or voided sale is final, and its record is part of that invariant
    intro hfinal later
    have hnow : (replay env s₁ history).SaleWith txn
        (fun row => row.IsFinal ∧ row.paymentRecord = sale.paymentRecord) :=
      ⟨sale, hfind, hfinal, rfl⟩
    rcases replay_outcome
      (P := Store.SaleWith txn (fun row => row.IsFinal ∧ row.paymentRecord = sale.paymentRecord))
      (fun _ _ _ _ hs houtcome => houtcome.final hs) later hnow with ⟨sale', hfind', _, hrecord⟩
    exact ⟨sale', hfind', hrecord⟩
  · intro clock clock' user paymentStatus details s' saved hupdate
    exact updateEncodingPayment_repeat hupdate
  · intro call e herror
    simp [step, herror]

/-- An online sale of two units from a batch of ten, entered as pending. -/
def pendingArgs : EncodeArgs :=
  { items := [.priced 1 (.ofAmount 200) (.ofAmount 150)]
    handledBy := ⟨1, .admin⟩
    transactionDate := 2
    requestId := some 7
    paymentMethod := "online" }

theorem payment_machine_pending :
    ∃ sale, (replay (Deployment.plain fun _ => "") (replay (Deployment.plain fun _ => "")
        (Store.oneSale 700 .available none) [{ now := 172800, op := .encodeTransaction pendingArgs }])
      [{ now := 172900, op := .updateEncodingPayment 2 ⟨1, .admin⟩ "paid" ⟨none, none⟩ },
       { now := 173000, op := .voidTransaction 2 none "" }]).transactions.find 2 = some sale ∧
      (sale.paymentStatus = .paid → sale.paymentMethod = .online → sale.changeDue = none) := by
  have hcreate : CreatesSale (Deployment.plain fun _ => "") 172800
      (Store.oneSale 700 .available none) (replay (Deployment.plain fun _ => "")
        (Store.oneSale 700 .available none)
        [{ now := 172800, op := .encodeTransaction pendingArgs }]) 2 := .inr ⟨pendingArgs, rfl⟩
  rcases (payment_machine _ _ _ _ 2 hcreate
    [{ now := 172900, op := .updateEncodingPayment 2 ⟨1, .admin⟩ "paid" ⟨none, none⟩ },
     { now := 173000, op := .voidTransaction 2 none "" }]).1 with ⟨sale, hfind, _, _, honline, _⟩
  exact ⟨sale, hfind, honline⟩

end RosarioDairy
