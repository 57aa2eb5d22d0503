import RosarioDairy.Sales.Models

/-!
# ItemPricing — final selling prices of a cart

`price_items` validates every cart entry and prices its line; discounts are only tolerated in
their neutral form.
-/

namespace RosarioDairy

open Foundations

/-- `MAX_MONEY`, in hundredths. -/
def maxMoney : Int := 99999999999999999999

/-- `money`: round ten-thousandths half up to hundredths. -/
def money (tenThousandths : Int) : Int :=
  if 0 ≤ tenThousandths then (tenThousandths + 50) / 100 else -((-tenThousandths + 50) / 100)

example : money 12350 = 124 := by decide

/-- `reject_invoice_discount`. -/
def rejectInvoiceDiscount (discountType : String) (discountValue : DecimalInput) :
    Except Error Unit := do
  let value ← parseDecimal discountValue "discount_value" (some 0) 20
  require (discountType = "none" ∧ value = 0)
    (.valueError "Discounts are no longer supported. Enter the final selling price.")

/-- One entry of a cart: the product with its quantity and price, the same with the two legacy
discount fields, or a tuple of any other length. -/
inductive CartEntry
  | priced (product : Nat) (quantity unitPrice : DecimalInput)
  | discounted (product : Nat) (quantity unitPrice : DecimalInput)
      (discountType : String) (discountValue : DecimalInput)
  | unpriced
  deriving DecidableEq, Repr

structure PricedItem where
  product : Nat
  quantity : Int
  unitPrice : Int
  subtotal : Int
  totalAmount : Int
  deriving DecidableEq, Repr

/-- The error of a line or a cart above the column limit. -/
def saleTotalError : Error :=
  .valueError "Sale total exceeds the maximum supported amount."

/-- The body of the pricing loop for one entry. -/
def priceEntry (seen : List Nat) (product : Nat) (quantity unitPrice : DecimalInput)
    (kind : String) (value : DecimalInput) : Except Error PricedItem := do
  require (product ∉ seen)
    (.valueError "Combine quantities for duplicate products before submitting a cart.")
  let quantity ← parseDecimal quantity "quantity" (some 1)
  let price ← parseDecimal unitPrice "unit_price" (some 0)
  let value ← parseDecimal value "discount_value" (some 0) 20
  rejectInvoiceDiscount kind (.ofAmount value)
  let subtotal := money (quantity * price)
  require (subtotal ≤ maxMoney) saleTotalError
  return { product := product
           quantity := quantity
           unitPrice := price
           subtotal := subtotal
           totalAmount := subtotal }

/-- The pricing loop, with the products seen so far. -/
def priceEntries (seen : List Nat) : List CartEntry → Except Error (List PricedItem)
  | [] => return []
  | .priced product quantity unitPrice :: entries => do
      let item ← priceEntry seen product quantity unitPrice "none" (.ofAmount 0)
      let items ← priceEntries (product :: seen) entries
      return item :: items
  | .discounted product quantity unitPrice kind value :: entries => do
      let item ← priceEntry seen product quantity unitPrice kind value
      let items ← priceEntries (product :: seen) entries
      return item :: items
  | .unpriced :: _ =>
      .error (.valueError "Every item requires an explicitly entered unit_price.")

/-- `price_items`. -/
def priceItems (entries : List CartEntry) : Except Error (List PricedItem) := do
  require (entries ≠ []) (.valueError "At least one item is required.")
  let items ← priceEntries [] entries
  require ((items.map PricedItem.subtotal).sum ≤ maxMoney) saleTotalError
  return items

/-! ## Priced carts -/

theorem priceEntry_product {seen : List Nat} {product : Nat} {quantity unitPrice value : DecimalInput}
    {kind : String} {item : PricedItem}
    (h : priceEntry seen product quantity unitPrice kind value = .ok item) :
    product ∉ seen ∧ item.product = product := by
  unfold priceEntry at h
  rcases require_bind_eq_ok.1 h with ⟨hnew, h⟩
  rcases bind_eq_ok.1 h with ⟨_, _, h⟩
  rcases bind_eq_ok.1 h with ⟨_, _, h⟩
  rcases bind_eq_ok.1 h with ⟨_, _, h⟩
  rcases bind_eq_ok.1 h with ⟨_, _, h⟩
  rcases require_bind_eq_ok.1 h with ⟨_, h⟩
  cases pure_eq_ok.1 h
  exact ⟨hnew, rfl⟩

theorem priced_cons_products {seen : List Nat} {product : Nat} {quantity unitPrice value : DecimalInput}
    {kind : String} {item : PricedItem} {items : List PricedItem}
    (hitem : priceEntry seen product quantity unitPrice kind value = .ok item)
    (hitems : (items.map PricedItem.product).Nodup ∧
      ∀ later ∈ items, later.product ∉ product :: seen) :
    ((item :: items).map PricedItem.product).Nodup ∧
      ∀ later ∈ item :: items, later.product ∉ seen := by
  rcases priceEntry_product hitem with ⟨hnew, hproduct⟩
  rcases hitems with ⟨hnodup, hunseen⟩
  refine ⟨?_, ?_⟩
  · rw [List.map_cons, List.nodup_cons]
    refine ⟨?_, hnodup⟩
    intro hmem
    rcases List.mem_map.1 hmem with ⟨later, hlater, hsame⟩
    exact hunseen later hlater (by rw [hsame, hproduct]; exact List.mem_cons_self)
  · intro later hlater
    rcases List.mem_cons.1 hlater with rfl | hlater
    · rw [hproduct]
      exact hnew
    · exact fun hseen => hunseen later hlater (List.mem_cons_of_mem _ hseen)

/-- A priced cart has every product once, and none that was seen before. -/
theorem priceEntries_products :
    ∀ {entries : List CartEntry} {seen : List Nat} {items : List PricedItem},
      priceEntries seen entries = .ok items →
      (items.map PricedItem.product).Nodup ∧ ∀ item ∈ items, item.product ∉ seen
  | [], _, _, h => by
      cases pure_eq_ok.1 h
      exact ⟨List.nodup_nil, fun item hitem => by cases hitem⟩
  | .unpriced :: _, _, _, h => by cases h
  | .priced product quantity unitPrice :: entries, seen, _, h => by
      rcases bind_eq_ok.1 h with ⟨item, hitem, h⟩
      rcases bind_eq_ok.1 h with ⟨items, hitems, h⟩
      cases pure_eq_ok.1 h
      exact priced_cons_products hitem (priceEntries_products hitems)
  | .discounted product quantity unitPrice kind value :: entries, seen, _, h => by
      rcases bind_eq_ok.1 h with ⟨item, hitem, h⟩
      rcases bind_eq_ok.1 h with ⟨items, hitems, h⟩
      cases pure_eq_ok.1 h
      exact priced_cons_products hitem (priceEntries_products hitems)

/-- A priced line: at least a cent of quantity, no negative price, and amounts that fit their columns. -/
structure PricedItem.Valid (item : PricedItem) : Prop where
  quantity_pos : 1 ≤ item.quantity
  quantity_lt : item.quantity < 10 ^ 10
  price_nonneg : 0 ≤ item.unitPrice
  price_lt : item.unitPrice < 10 ^ 10
  subtotal : item.subtotal = money (item.quantity * item.unitPrice)
  subtotal_le : item.subtotal ≤ maxMoney
  total : item.totalAmount = item.subtotal

theorem priceEntry_valid {seen : List Nat} {product : Nat} {quantity unitPrice value : DecimalInput}
    {kind : String} {item : PricedItem}
    (h : priceEntry seen product quantity unitPrice kind value = .ok item) : item.Valid := by
  unfold priceEntry at h
  rcases require_bind_eq_ok.1 h with ⟨_, h⟩
  rcases bind_eq_ok.1 h with ⟨q, hquantity, h⟩
  rcases bind_eq_ok.1 h with ⟨p, hprice, h⟩
  rcases bind_eq_ok.1 h with ⟨_, _, h⟩
  rcases bind_eq_ok.1 h with ⟨_, _, h⟩
  rcases require_bind_eq_ok.1 h with ⟨hsubtotal, h⟩
  cases pure_eq_ok.1 h
  have hquantity_digits := parseDecimal_lt (by decide) hquantity
  have hprice_digits := parseDecimal_lt (by decide) hprice
  have hquantity_lt : q < 10 ^ 10 := by omega
  have hprice_lt : p < 10 ^ 10 := by omega
  exact
    { quantity_pos := parseDecimal_le hquantity
      quantity_lt := hquantity_lt
      price_nonneg := parseDecimal_le hprice
      price_lt := hprice_lt
      subtotal := rfl
      subtotal_le := hsubtotal
      total := rfl }

theorem priceEntries_valid :
    ∀ {entries : List CartEntry} {seen : List Nat} {items : List PricedItem},
      priceEntries seen entries = .ok items → ∀ item ∈ items, item.Valid
  | [], _, _, h => by
      cases pure_eq_ok.1 h
      exact fun item hitem => by cases hitem
  | .unpriced :: _, _, _, h => by cases h
  | .priced product quantity unitPrice :: entries, seen, _, h => by
      rcases bind_eq_ok.1 h with ⟨item, hitem, h⟩
      rcases bind_eq_ok.1 h with ⟨items, hitems, h⟩
      cases pure_eq_ok.1 h
      exact List.forall_mem_cons.2 ⟨priceEntry_valid hitem, priceEntries_valid hitems⟩
  | .discounted product quantity unitPrice kind value :: entries, seen, _, h => by
      rcases bind_eq_ok.1 h with ⟨item, hitem, h⟩
      rcases bind_eq_ok.1 h with ⟨items, hitems, h⟩
      cases pure_eq_ok.1 h
      exact List.forall_mem_cons.2 ⟨priceEntry_valid hitem, priceEntries_valid hitems⟩

/-- Every line of a priced cart is valid, and the cart fits the total column. -/
theorem priceItems_valid {entries : List CartEntry} {items : List PricedItem}
    (h : priceItems entries = .ok items) :
    (∀ item ∈ items, item.Valid) ∧ (items.map PricedItem.subtotal).sum ≤ maxMoney := by
  unfold priceItems at h
  rcases require_bind_eq_ok.1 h with ⟨_, h⟩
  rcases bind_eq_ok.1 h with ⟨priced, hpriced, h⟩
  rcases require_bind_eq_ok.1 h with ⟨htotal, h⟩
  cases pure_eq_ok.1 h
  exact ⟨priceEntries_valid hpriced, htotal⟩

/-! ## Rounding -/

theorem money_of_nonneg {x : Int} (h : 0 ≤ x) : money x = (x + 50) / 100 := if_pos h

theorem money_mono {a b : Int} (ha : 0 ≤ a) (hab : a ≤ b) : money a ≤ money b := by
  rw [money_of_nonneg ha, money_of_nonneg (Int.le_trans ha hab)]
  exact Int.ediv_le_ediv (by decide) (Int.add_le_add_right hab 50)

/-- Rounding moves an amount by half a hundredth at most, and only up by that much. -/
theorem money_close {x : Int} (h : 0 ≤ x) : -50 < 100 * money x - x ∧ 100 * money x - x ≤ 50 := by
  rw [money_of_nonneg h]
  omega

/-- The difference of two rounded totals is less than a cent away from the exact difference. -/
theorem money_sub_close {a b : Int} (ha : 0 ≤ a) (hb : 0 ≤ b) :
    (100 * (money b - money a) - (b - a)).natAbs < 100 := by
  have hlower := money_close ha
  have hupper := money_close hb
  omega

theorem priceItems_products {entries : List CartEntry} {items : List PricedItem}
    (h : priceItems entries = .ok items) : (items.map PricedItem.product).Nodup := by
  unfold priceItems at h
  rcases require_bind_eq_ok.1 h with ⟨_, h⟩
  rcases bind_eq_ok.1 h with ⟨priced, hpriced, h⟩
  rcases require_bind_eq_ok.1 h with ⟨_, h⟩
  cases pure_eq_ok.1 h
  exact (priceEntries_products hpriced).1

end RosarioDairy
