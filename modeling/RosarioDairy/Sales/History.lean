import RosarioDairy.Config.ApiInputs
import RosarioDairy.Forecasting.Learning
import RosarioDairy.Sales.Visibility
import RosarioDairy.Text

/-!
# History — the transaction history, its filters and its totals

The paged list of receipts and its summary.  Both filter the visible transactions by the parameters of
the request; a parameter that cannot be read ends the request with an error about its field.
-/

namespace RosarioDairy

open Foundations Forecasting

/-! ## Parameters -/

/-- The parameters of a request, in the order of its query string. -/
abbrev QueryDict : Type := List (String × String)

/-- `params.get(field)`: the last value given. -/
def QueryDict.get (params : QueryDict) (field : String) : Option String :=
  ((params.filter fun entry => decide (entry.1 = field)).getLast?).map Prod.snd

/-- A value that is given and not empty. -/
def QueryDict.given (params : QueryDict) (field : String) : Option String :=
  (params.get field).filter fun value => decide (value ≠ "")

/-- The Unicode tables of the text library: the decimal digits and the lower-case forms. -/
structure CharTables where
  digit : Char → Option Nat
  lower : String → String

structure HistoryFilterError where
  field : String
  message : String
  deriving DecidableEq, Repr

def decimalValue (digits : List Nat) : Nat := digits.foldl (fun n d => 10 * n + d) 0

/-- `int(value)` of a text: a sign, and digits that single underscores may separate. -/
def intOfText (tables : CharTables) (value : String) : Option Int :=
  let text := (strip value).toList
  let (negative, body) :=
    match text with
    | '-' :: rest => (true, rest)
    | '+' :: rest => (false, rest)
    | rest => (false, rest)
  let groups := body.splitOn '_'
  if groups.contains [] then none
  else
    (groups.flatten.mapM tables.digit).bind fun digits =>
      if 4300 < digits.length then none
      else some (if negative then -(decimalValue digits : Int) else decimalValue digits)

/-- `parse_positive_id`, of a text. -/
def parsePositiveId (tables : CharTables) (value : String) : Option Nat :=
  (intOfText tables value).bind fun n =>
    if 0 < n ∧ n ≤ 9223372036854775807 then some n.toNat else none

/-- The months and days that `strptime` reads: one digit, or two. -/
def shortNumber (text : List Char) : Option Nat :=
  match text with
  | [c] => if '1' ≤ c ∧ c ≤ '9' then some (c.toNat - 48) else none
  | ['0', c] => if '1' ≤ c ∧ c ≤ '9' then some (c.toNat - 48) else none
  | _ => none

def monthNumber (text : List Char) : Option Nat :=
  match text with
  | ['1', c] => if '0' ≤ c ∧ c ≤ '2' then some (10 + (c.toNat - 48)) else none
  | _ => shortNumber text

/-- A day may also be a blank and a digit. -/
def dayNumber (tables : CharTables) (text : List Char) : Option Nat :=
  match text with
  | ['3', c] => if '0' ≤ c ∧ c ≤ '1' then some (30 + (c.toNat - 48)) else none
  | ['1', c] => (tables.digit c).map fun d => 10 + d
  | ['2', c] => (tables.digit c).map fun d => 20 + d
  | [' ', c] => shortNumber [c]
  | _ => shortNumber text

/-- `datetime.strptime(value, '%Y-%m-%d').date()` -/
def strptime (tables : CharTables) (value : String) : Option Int :=
  match value.toList.splitOn '-' with
  | [yearText, monthText, dayText] =>
      if yearText.length ≠ 4 then none
      else
        (yearText.mapM tables.digit).bind fun yearDigits =>
          (monthNumber monthText).bind fun month =>
            (dayNumber tables dayText).bind fun day =>
              let year := decimalValue yearDigits
              if 0 < year ∧ day ≤ daysInMonth year month then
                some (Day.ofYmd
                  { year := year
                    month := month
                    day := day })
              else none
  | _ => none

/-- A date parameter; an empty one is none. -/
def dateParameter (tables : CharTables) (params : QueryDict) (field : String) :
    Except HistoryFilterError (Option Int) :=
  match params.given field with
  | none => pure none
  | some value =>
      match strptime tables value with
      | some date => pure (some date)
      | none =>
          .error
            { field := field
              message := field ++ " must be in YYYY-MM-DD format." }

/-- A parameter with a fixed set of values. -/
def choiceParameter (params : QueryDict) (field : String) (allowed : List String) :
    Except HistoryFilterError (Option String) :=
  match params.given field with
  | none => pure none
  | some value =>
      if allowed.contains value then pure (some value)
      else
        .error
          { field := field
            message := field ++ " must be one of " ++ String.intercalate ", " allowed ++ "." }

/-- A parameter that names a user or a customer. -/
def idParameter (tables : CharTables) (params : QueryDict) (field message : String) :
    Except HistoryFilterError (Option Nat) :=
  match params.given field with
  | none => pure none
  | some value =>
      match parsePositiveId tables value with
      | some id => pure (some id)
      | none =>
          .error
            { field := field
              message := message }

/-! ## Filters -/

def paymentMethodChoices : List String := ["cash", "online", "unknown"]

def paymentStatusChoices : List String := ["pending", "paid", "unknown"]

def PaymentStatus.value : PaymentStatus → String
  | .pending => "pending"
  | .paid => "paid"
  | .unknown => "unknown"

section Filters

variable (E : Engine) (tables : CharTables) (zone : Zone) (db : Database)

def customerNameOf (txn : Transaction) : Option String :=
  (txn.customer.bind db.customers.find).map CustomerAccount.name

def handlerName (txn : Transaction) : Option String :=
  (db.users.find txn.handledBy).map Accounts.Users.username

/-- The invoice number, the customer's name or the handler's name contains the text. -/
def matchesSearch (search : String) (txn : Transaction) : Bool :=
  txn.sourceInvoiceNumber.any (fun number => E.icontains number search)
    || (customerNameOf db txn).any (fun name => E.icontains name search)
    || (handlerName db txn).any fun name => E.icontains name search

/-- What the parameters ask for. -/
structure HistoryFilter where
  startDate : Option Int
  endDate : Option Int
  paymentMethod : Option String
  paymentStatus : Option String
  handledBy : Option Nat
  customerId : Option Nat
  includeVoided : Bool
  search : String
  deriving DecidableEq, Repr

def historyFilter (params : QueryDict) : Except HistoryFilterError HistoryFilter := do
  let startDate ← dateParameter tables params "start_date"
  let endDate ← dateParameter tables params "end_date"
  require (¬ (startDate.any fun first => endDate.any fun last => decide (last < first)))
    { field := "start_date"
      message := "start_date cannot be after end_date." }
  let paymentMethod ← choiceParameter params "payment_method" paymentMethodChoices
  let paymentStatus ← choiceParameter params "payment_status" paymentStatusChoices
  let handledBy ← idParameter tables params "handled_by" "handled_by must be a valid user id."
  let customerId ← idParameter tables params "customer_id"
    "customer_id must be a valid customer id."
  let search := strip ((params.get "search").getD "")
  require (search.length ≤ 200)
    { field := "search"
      message := "search must contain at most 200 characters." }
  require ((search.toList.contains (Char.ofNat 0)) = false)
    { field := "search"
      message := "search cannot contain null characters." }
  pure
    { startDate := startDate
      endDate := endDate
      paymentMethod := paymentMethod
      paymentStatus := paymentStatus
      handledBy := handledBy
      customerId := customerId
      includeVoided := decide (tables.lower ((params.get "include_voided").getD "false") = "true")
      search := search }

/-- The conditions on one receipt; the day of a receipt is its local business date. -/
def HistoryFilter.accepts (filter : HistoryFilter) (txn : Transaction) : Bool :=
  filter.startDate.all (fun first => decide (first ≤ zone.localDate txn.createdAt))
    && filter.endDate.all (fun last => decide (zone.localDate txn.createdAt ≤ last))
    && filter.paymentMethod.all (fun value => decide (txn.paymentMethod.value = value))
    && filter.paymentStatus.all (fun value => decide (txn.paymentStatus.value = value))
    && filter.handledBy.all (fun user => decide (txn.handledBy = user))
    && filter.customerId.all (fun customer => decide (txn.customer = some customer))
    && (filter.includeVoided || !txn.isVoided)
    && (decide (filter.search = "") || matchesSearch E db filter.search txn)

/-- `filter_history`, of receipts. -/
def filterHistory (queryset : List Transaction) (params : QueryDict) :
    Except HistoryFilterError (List Transaction) := do
  let filter ← historyFilter tables params
  pure (queryset.filter (filter.accepts E zone db))

/-! ## Order -/

/-- Texts in the order of the database, missing ones last either way. -/
def compareNullsLast (descending : Bool) (first second : Option String) : Ordering :=
  match first, second with
  | some _, some _ => if descending then E.compareText second first else E.compareText first second
  | some _, none => .lt
  | none, some _ => .gt
  | none, none => .eq

def directed (descending : Bool) (order : Transaction → Transaction → Ordering)
    (a b : Transaction) : Ordering :=
  if descending then order b a else order a b

def historyOrderFields : List String :=
  ["id", "created_at", "transaction_date", "transaction_number", "total_amount", "customer",
    "handled_by"]

/-- The comparison by one of the fields. -/
def orderByField (descending : Bool) (key : String) (a b : Transaction) : Ordering :=
  if key = "id" then directed descending (fun a b => compare a.pk b.pk) a b
  else if key = "transaction_number" then
    compareNullsLast E descending a.sourceInvoiceNumber b.sourceInvoiceNumber
  else if key = "customer" then
    compareNullsLast E descending (customerNameOf db a) (customerNameOf db b)
  else if key = "total_amount" then
    directed descending (fun a b => compare a.totalAmount b.totalAmount) a b
  else if key = "handled_by" then
    directed descending (fun a b => E.compareText (handlerName db a) (handlerName db b)) a b
  else directed descending (fun a b => compare a.createdAt b.createdAt) a b

/-- `order_history`: receipts that compare equal are ordered by their keys. -/
def orderHistory (queryset : List Transaction) (params : QueryDict) :
    Except HistoryFilterError (List Transaction) :=
  let ordering := (params.given "ordering").getD "-created_at"
  let descending := decide (ordering.toList.head? = some '-')
  let key := if descending then String.ofList ordering.toList.tail else ordering
  if historyOrderFields.contains key then
    pure (sortedBy (fun a b => (orderByField E db descending key a b).then
      (directed descending (fun a b => compare a.pk b.pk) a b)) queryset)
  else
    .error
      { field := "ordering"
        message := "ordering must be one of " ++ String.intercalate ", " historyOrderFields
          ++ ", optionally prefixed with -." }

/-! ## Answers -/

/-- The routes of the history; manual encoding lists the encoded receipts only. -/
inductive HistoryResource
  | transactions
  | encoding
  deriving DecidableEq, Repr

/-- `get_queryset` -/
def historyQueryset (resource : HistoryResource) (user : User) : List Transaction :=
  let visible := visibleTransactions db
    { visibleToStaff := decide (user.role = .staff)
      staffUserId := some user.pk }
  match resource with
  | .transactions => visible
  | .encoding => visible.filter fun txn => txn.encodedAt.isSome

structure TransactionSummary where
  transactionCount : Nat
  totalRevenue : String
  paidCount : Nat
  paidAmount : String
  pendingCount : Nat
  pendingAmount : String
  unknownCount : Nat
  unknownAmount : String
  deriving DecidableEq, Repr

def withStatus (status : PaymentStatus) (sales : List Transaction) : List Transaction :=
  sales.filter fun txn => decide (txn.paymentStatus = status)

def amountText (sales : List Transaction) : String :=
  Amount.text (sales.map Transaction.totalAmount).sum

/-- `summary` -/
def historySummary (resource : HistoryResource) (user : User) (params : QueryDict) :
    Except HistoryFilterError TransactionSummary := do
  let sales ← filterHistory E tables zone db (historyQueryset db resource user) params
  pure
    { transactionCount := sales.length
      totalRevenue := amountText sales
      paidCount := (withStatus .paid sales).length
      paidAmount := amountText (withStatus .paid sales)
      pendingCount := (withStatus .pending sales).length
      pendingAmount := amountText (withStatus .pending sales)
      unknownCount := (withStatus .unknown sales).length
      unknownAmount := amountText (withStatus .unknown sales) }

/-- `list`, before it is cut into pages. -/
def historyList (resource : HistoryResource) (user : User) (params : QueryDict) :
    Except HistoryFilterError (List Transaction) := do
  let sales ← filterHistory E tables zone db (historyQueryset db resource user) params
  orderHistory E db sales params

end Filters

end RosarioDairy
